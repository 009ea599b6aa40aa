import IconSubset.Parse.Subtree

/-!
# The graph of parse stacks

While a grammar leaves two readings open, the parser keeps both. The stacks of all readings share
their common parts: a node holds the state reached and one link for every way to get there, and a
version of the stack is the node at its top. Versions that reach the same state at the same place
merge again, and their differences stay behind as several links of one node.
-/

namespace IconSubset.Parse

open Grammar (Grammar)

/-- One step down a stack: the node below and the tree between the two. There is no tree where the
parser lost its way. -/
structure Link where
  /-- The node below. -/
  below : Nat
  /-- The tree between the two nodes. -/
  tree : Option Subtree
deriving Inhabited

/-- A place in the graph of stacks. -/
structure StackNode where
  /-- The state of the automaton. -/
  state : Nat
  /-- The place in the source. -/
  position : Extent
  /-- The ways down. -/
  links : Array Link
  /-- The cost of the errors below. -/
  cost : Nat
  /-- The number of visible trees below. -/
  count : Nat
  /-- The dynamic precedence of the trees below. -/
  dynamic : Int
deriving Inhabited

/-- What a version of the stack is doing. -/
inductive Status where
  | active
  /-- It cannot go on with that lookahead. -/
  | paused (lookahead : Subtree)
  | halted
deriving Inhabited

/-- A state through which a version got where it lost its way. -/
structure Waypoint where
  /-- The place in the source. -/
  position : Extent
  /-- The number of trees above it. -/
  depth : Nat
  /-- The state. -/
  state : Nat
deriving Inhabited

/-- A version of the stack. -/
structure Version where
  /-- The node at its top. -/
  top : Nat
  /-- The number of visible trees there were when it last lost its way. -/
  countAtError : Nat
  /-- What it is doing. -/
  status : Status
  /-- Where it could go back to. -/
  waypoints : Option (Array Waypoint)
  /-- What the scanner knows behind the last token that it has read. -/
  memory : Memory
deriving Inhabited

/-- All versions of the stack. -/
structure Stack where
  /-- The nodes of the graph. -/
  nodes : Array StackNode
  /-- The versions, the most promising first. -/
  versions : Array Version
deriving Inhabited

/-- A piece taken off a version: the trees from the bottom to the top, and the version that is left
without them. -/
structure Slice where
  /-- The trees. -/
  trees : List Subtree
  /-- The version left. -/
  version : Nat
deriving Inhabited

namespace Stack

/-- The stack at the start of a source. -/
def initial (state : Nat) : Stack :=
  ⟨#[⟨state, .zero, #[], 0, 0, 0⟩], #[⟨0, 0, .active, none, none⟩]⟩

/-- The version of a number. -/
def version (s : Stack) (v : Nat) : Version := s.versions.getD v default

/-- The node of a number. -/
def node (s : Stack) (n : Nat) : StackNode := s.nodes.getD n default

/-- The node at the top of a version. -/
def top (s : Stack) (v : Nat) : StackNode := s.node (s.version v).top

/-- The state of a version. -/
def state (s : Stack) (v : Nat) : Nat := (s.top v).state

/-- The place of a version. -/
def position (s : Stack) (v : Nat) : Extent := (s.top v).position

/-- The number of versions. -/
def size (s : Stack) : Nat := s.versions.size

/-- Whether a version may go on. -/
def isActive (s : Stack) (v : Nat) : Bool :=
  v < s.size && match (s.version v).status with | .active => true | _ => false

/-- Whether a version waits for recovery. -/
def isPaused (s : Stack) (v : Nat) : Bool :=
  match (s.version v).status with | .paused _ => true | _ => false

/-- Whether a version is given up. -/
def isHalted (s : Stack) (v : Nat) : Bool :=
  match (s.version v).status with | .halted => true | _ => false

/-- The number of versions that are given up. -/
def haltedCount (s : Stack) : Nat :=
  s.versions.foldl (fun n v => match v.status with | .halted => n + 1 | _ => n) 0

/-- How many visible trees a tree adds to a stack. Skipped tokens count as one although they are
not visible, for the count also tells whether the parser has moved on since its last error. -/
def countOf (g : Grammar) (t : Subtree) : Nat :=
  t.summary.descendants + (if t.visible g then 1 else 0)
    + (if t.summary.label == .skipped then 1 else 0)

/-- The cost of the errors of a version. -/
def costOf (s : Stack) (v : Nat) (lost : Nat) : Nat :=
  let n := s.top v
  let justLost := n.state == lost && (n.links[0]?).elim false (·.tree.isNone)
  if s.isPaused v || justLost then n.cost + costOfRecovery else n.cost

/-- What the scanner knows behind the tokens of a version. -/
def memory (s : Stack) (v : Nat) : Memory := (s.version v).memory

/-- Changes a version. -/
def modifyVersion (s : Stack) (v : Nat) (f : Version → Version) : Stack :=
  { s with versions := s.versions.modify v f }

/-- The number of visible trees that a version has gained since it last lost its way. -/
def countSinceError (s : Stack) (v : Nat) : Nat × Stack :=
  let count := (s.top v).count
  let at_ := (s.version v).countAtError
  if count < at_ then (0, s.modifyVersion v fun h => { h with countAtError := count })
  else (count - at_, s)

/-- Puts a tree on a version. -/
def push (g : Grammar) (s : Stack) (v : Nat) (tree : Option Subtree) (state : Nat) : Stack :=
  let below := (s.version v).top
  let b := s.node below
  let n : StackNode :=
    match tree with
    | some t =>
      { state
        position := b.position.add t.total
        links := #[⟨below, tree⟩]
        cost := b.cost + t.cost
        count := b.count + countOf g t
        dynamic := b.dynamic + t.summary.dynamic }
    | none => { b with state, links := #[⟨below, none⟩] }
  let s := { s with nodes := s.nodes.push n }
  s.modifyVersion v fun h =>
    { h with
      top := s.nodes.size - 1
      countAtError := if tree.isNone then n.count else h.countAtError }

/-- Whether two links need not be told apart. -/
private def sameTree (a b : Option Subtree) : Bool :=
  match a, b with
  | none, none => true
  | some a, some b =>
    a.summary.label == b.summary.label &&
      ((a.cost > 0 && b.cost > 0) ||
        (a.summary.padding.bytes == b.summary.padding.bytes &&
          a.summary.size.bytes == b.summary.size.bytes &&
          a.summary.arity == b.summary.arity &&
          a.summary.extra == b.summary.extra))
  | _, _ => false

/-- The greatest number of links of a node. -/
private def maxLinks : Nat := 8

/-- Adds a way down to a node, or merges it with one that is already there. `fuel` bounds how deep
merging goes. -/
private def addLink (g : Grammar) : (fuel : Nat) → Stack → (n : Nat) → Link → Stack
  | 0, s, _, _ => s
  | fuel + 1, s, n, link =>
    if link.below == n then s
    else
      let self := s.node n
      let other := s.node link.below
      let dynamic (tree : Option Subtree) : Int := tree.elim 0 (·.summary.dynamic)
      let mergeable (l : Link) : Bool :=
        sameTree l.tree link.tree &&
          (l.below == link.below ||
            (let existing := s.node l.below
             existing.state == other.state &&
               existing.position.bytes == other.position.bytes &&
               existing.cost == other.cost))
      match self.links.findIdx? mergeable with
      | some i =>
        let existing := self.links.getD i default
        if existing.below == link.below then
          if dynamic link.tree > dynamic existing.tree then
            { s with
              nodes := s.nodes.modify n fun self =>
                { self with
                  links := self.links.modify i fun l => { l with tree := link.tree }
                  dynamic := other.dynamic + dynamic link.tree } }
          else s
        else
          let s := other.links.foldl (fun s l => addLink g fuel s existing.below l) s
          let total := other.dynamic + dynamic link.tree
          { s with
            nodes := s.nodes.modify n fun self =>
              if total > self.dynamic then { self with dynamic := total } else self }
      | none =>
        if self.links.size ≥ maxLinks then s
        else
          let count := other.count + link.tree.elim 0 (countOf g)
          let total := other.dynamic + dynamic link.tree
          { s with
            nodes := s.nodes.modify n fun self =>
              { self with
                links := self.links.push link
                count := max self.count count
                dynamic := max self.dynamic total } }

/-- Whether two versions have come to the same place. -/
def canMerge (s : Stack) (v w : Nat) : Bool :=
  s.isActive v && s.isActive w &&
    (let a := s.top v
     let b := s.top w
     a.state == b.state && a.position.bytes == b.position.bytes && a.cost == b.cost) &&
    s.memory v == s.memory w

/-- The stack without a version. -/
def removeVersion (s : Stack) (v : Nat) : Stack :=
  { s with versions := (s.versions.toList.eraseIdx v).toArray }

/-- Merges the second version into the first, when they have come to the same place. -/
def merge (g : Grammar) (s : Stack) (v w : Nat) (lost : Nat) : Option Stack :=
  if !s.canMerge v w then none
  else
    let head := (s.version v).top
    let s := (s.top w).links.foldl (fun s l => addLink g (s.nodes.size + 1) s head l) s
    let s :=
      if s.state v == lost then
        s.modifyVersion v fun h => { h with countAtError := (s.node head).count }
      else s
    some (s.removeVersion w)

/-- Puts one version in the place of an earlier one. -/
def renumber (s : Stack) (v w : Nat) : Stack :=
  if v == w then s
  else
    let source := s.version v
    let target := s.version w
    let source :=
      if source.waypoints.isNone then { source with waypoints := target.waypoints } else source
    ({ s with versions := s.versions.setIfInBounds w source }).removeVersion v

/-- Exchanges two versions. -/
def swap (s : Stack) (v w : Nat) : Stack :=
  let a := s.version v
  let b := s.version w
  { s with versions := (s.versions.setIfInBounds v b).setIfInBounds w a }

/-- Adds a copy of a version at the end. -/
def copy (s : Stack) (v : Nat) : Nat × Stack :=
  (s.size, { s with versions := s.versions.push { s.version v with waypoints := none } })

/-- Gives a version up. -/
def halt (s : Stack) (v : Nat) : Stack := s.modifyVersion v fun h => { h with status := .halted }

/-- Lets a version wait for recovery. -/
def pause (s : Stack) (v : Nat) (lookahead : Subtree) : Stack :=
  s.modifyVersion v fun h => { h with status := .paused lookahead, countAtError := (s.top v).count }

/-- A walk down a stack. -/
private structure Walk where
  node : Nat
  /-- The trees passed, from the bottom to the top. -/
  trees : List Subtree
  /-- The number of trees passed that are not extras. -/
  depth : Nat

/-- The greatest number of walks at a time. -/
private def maxWalks : Nat := 64

/-- One step down a link. -/
private def Walk.step (w : Walk) (l : Link) : Walk :=
  match l.tree with
  | some t => ⟨l.below, t :: w.trees, if t.summary.extra then w.depth else w.depth + 1⟩
  | none => ⟨l.below, w.trees, w.depth + 1⟩

/-- What to do with a walk. -/
private structure Verdict where
  take : Bool
  stop : Bool

/-- Goes down from a node along all ways at once. `judge` sees each walk where it stands and says
whether to report it and whether to end it. `fuel` bounds the rounds. -/
private def descend {σ : Type} (s : Stack) (judge : σ → Walk → Verdict × σ)
    (report : σ → Walk → σ) : (fuel : Nat) → List Walk → σ → σ
  | 0, _, acc => acc
  | _, [], acc => acc
  | fuel + 1, walks, acc =>
    let (kept, added, _, acc) := walks.foldl
      (fun (kept, added, total, acc) w =>
        let (verdict, acc) := judge acc w
        let acc := if verdict.take then report acc w else acc
        let links := (s.node w.node).links
        if verdict.stop || links.isEmpty then (kept, added, total - 1, acc)
        else
          let (added, total) := (links.toList.drop 1).foldl
            (fun (added, total) l =>
              if total ≥ maxWalks then (added, total) else (w.step l :: added, total + 1))
            (added, total)
          (w.step (links.getD 0 default) :: kept, added, total, acc))
      (([] : List Walk), ([] : List Walk), walks.length, acc)
    descend s judge report fuel (kept.reverse ++ added.reverse) acc

/-- The slices of a walk and the stack with the versions left. -/
private structure Cut where
  stack : Stack
  slices : Array Slice

/-- Records that a walk from version `v` ends: a slice whose remaining version has the same top as
an earlier slice shares its version. -/
private def Cut.add (v : Nat) (c : Cut) (w : Walk) : Cut :=
  let same := (List.range c.slices.size).reverse.find? fun i =>
    (c.stack.version (c.slices.getD i default).version).top == w.node
  match same with
  | some i =>
    let version := (c.slices.getD i default).version
    let before := c.slices.extract 0 (i + 1)
    let after := c.slices.extract (i + 1) c.slices.size
    { c with slices := before ++ #[⟨w.trees, version⟩] ++ after }
  | none =>
    let version := c.stack.size
    let head : Version :=
      { top := w.node
        countAtError := (c.stack.version v).countAtError
        status := .active
        waypoints := none
        memory := c.stack.memory v }
    ⟨{ c.stack with versions := c.stack.versions.push head }, c.slices.push ⟨w.trees, version⟩⟩

/-- Takes `count` trees off a version. Every way to do so leaves a new version. -/
def popCount (s : Stack) (v count : Nat) : Array Slice × Stack :=
  let c := descend s
    (fun (c : Cut) w => (⟨w.depth == count, w.depth == count⟩, c))
    (fun c w => c.add v w) (s.nodes.size + 1) [⟨(s.version v).top, [], 0⟩] ⟨s, #[]⟩
  (c.slices, c.stack)

/-- Takes the error at the top off a version, if there is one. -/
def popError (s : Stack) (v : Nat) : List Subtree × Stack :=
  let n := s.top v
  if n.links.any (fun l => l.tree.elim false (·.isError)) then
    let (c, _) := descend s
      (fun (st : Cut × Bool) w =>
        match w.trees with
        | t :: _ => if !st.2 && t.isError then (⟨true, true⟩, (st.1, true)) else (⟨false, true⟩, st)
        | [] => (⟨false, false⟩, st))
      (fun st w => (st.1.add v w, st.2)) (s.nodes.size + 1)
      [⟨(s.version v).top, [], 0⟩] (⟨s, #[]⟩, false)
    match c.slices[0]? with
    | some slice => (slice.trees, c.stack.renumber slice.version v)
    | none => ([], s)
  else ([], s)

/-- Takes everything off a version. -/
def popAll (s : Stack) (v : Nat) : Array Slice × Stack :=
  let c := descend s
    (fun (c : Cut) w => (⟨(s.node w.node).links.isEmpty, false⟩, c))
    (fun c w => c.add v w) (s.nodes.size + 1) [⟨(s.version v).top, [], 0⟩] ⟨s, #[]⟩
  (c.slices, c.stack)

/-- Records the states through which a version came, down to a depth. -/
def recordWaypoints (s : Stack) (v maxDepth : Nat) : Stack :=
  let found := descend s
    (fun (acc : Array Waypoint) w =>
      if w.depth > maxDepth then (⟨false, true⟩, acc)
      else
        let n := s.node w.node
        let recent := (acc.toList.reverse).takeWhile fun p => p.depth ≥ w.depth
        if recent.any fun p => p.depth == w.depth && p.state == n.state then (⟨false, false⟩, acc)
        else (⟨false, false⟩, acc.push ⟨n.position, w.depth, n.state⟩))
    (fun acc _ => acc) (s.nodes.size + 1) [⟨(s.version v).top, [], 0⟩] #[]
  s.modifyVersion v fun h => { h with waypoints := some found }

/-- Whether a version has taken any text since it last lost its way. `fuel` bounds the walk. -/
def hasAdvanced (s : Stack) (v : Nat) : Bool :=
  let h := s.version v
  let rec down : (fuel : Nat) → Nat → Bool
    | 0, _ => false
    | fuel + 1, n =>
      let node := s.node n
      match node.links[0]? with
      | some link =>
        match link.tree with
        | some t =>
          if t.total.bytes > 0 then true
          else if node.count > h.countAtError && t.cost == 0 then down fuel link.below
          else false
        | none => false
      | none => false
  (s.top v).cost == 0 || down (s.nodes.size + 1) h.top

end Stack

end IconSubset.Parse
