import IconSubset.Config.Loading
import IconSubset.Proofs.Config.Fields

/-!
# Variables that a file puts in

A file of environment variables assigns values, and a dollar sign in one puts in the value of
another variable. That is the only way in which what it assigns depends on variables that are known
already: where the value of a variable is not put in anywhere, the file comes to the same for all
other variables, whatever that variable is and whether it is there or not
(`without_fullEnvironment`).
-/

namespace IconSubset.Config

/-- The variables of other names. -/
def Environment.without (name : String) (environment : Environment) : Environment :=
  environment.filter fun var => var.1 ≠ name

/-- Variables of other names are found as without the one. -/
theorem Environment.get?_without {name other : String} (h : other ≠ name)
    (environment : Environment) :
    (environment.without name).get? other = environment.get? other := by
  unfold Environment.without Environment.get?
  induction environment with
  | nil => rfl
  | cons var rest ih =>
    obtain ⟨n, v⟩ := var
    rw [List.filter_cons, lookup_cons]
    split_ifs with hkeep hfound hfound
    · rw [lookup_cons, if_pos hfound]
    · rw [lookup_cons, if_neg hfound, ih]
    · exact absurd (hfound ▸ h) (by simpa using hkeep)
    · exact ih

/-- Variables that are the same without one are the same but for the one. -/
theorem Environment.get?_congr {name other : String} (h : other ≠ name)
    {environment environment' : Environment}
    (hsame : environment.without name = environment'.without name) :
    environment.get? other = environment'.get? other := by
  rw [← get?_without h environment, hsame, get?_without h]

/-- A variable is taken out of each part of an environment. -/
theorem Environment.without_append (name : String) (first second : Environment) :
    (first ++ second : Environment).without name = first.without name ++ second.without name :=
  List.filter_append ..

namespace EnvironmentFile

/-- The names of the variables whose values a value puts in. -/
def substituted (double : Bool) : Reading → List Char → List String
  | .plain, [] | .afterBackslash, [] | .ended, [] | .single, [] | .braced _, [] => []
  | .named name, [] => [String.ofList name]
  | .ended, _ :: _ => []
  | .afterBackslash, _ :: cs => substituted double .plain cs
  | .single, c :: cs =>
    if c = '\'' then substituted double .plain cs else substituted double .single cs
  | .named name, c :: cs =>
    if Text.isAlphanumeric c then substituted double (.named (name ++ [c])) cs
    else if c = '{' ∧ name = [] then substituted double (.braced []) cs
    else if c = '$' then String.ofList name :: substituted double (.named []) cs
    else String.ofList name :: substituted double .plain cs
  | .braced name, c :: cs =>
    if c = '}' then String.ofList name :: substituted double .plain cs
    else substituted double (.braced (name ++ [c])) cs
  | .plain, c :: cs =>
    if c = '$' then substituted double (.named []) cs
    else if c = '\\' then substituted double .afterBackslash cs
    else if c = '"' then substituted (!double) .plain cs
    else if double then substituted double .plain cs
    else if c = '\'' then substituted double .single cs
    else if c = ' ' ∨ c = '\t' then []
    else substituted double .plain cs

/-- After a value nothing is put in. -/
theorem value_ended (known known' : Environment) (double : Bool) (cs : List Char) :
    value known double .ended cs = value known' double .ended cs := by
  induction cs with
  | nil => rw [value, value]
  | cons c cs ih =>
    rw [value, value, ih]

/-- A value is the same for variables of which those that it puts in have the same values. -/
theorem value_congr {known known' : Environment} {double : Bool} {reading : Reading}
    {cs : List Char} (h : ∀ name ∈ substituted double reading cs,
      known.get? name = known'.get? name) :
    value known double reading cs = value known' double reading cs := by
  have hput : ∀ name, known.get? (String.ofList name) = known'.get? (String.ofList name) →
      substitute known name = substitute known' name := by
    intro name hname
    rw [substitute, substitute, hname]
  -- Character by character both are read in the same way; where a name ends, what is put in for it
  -- is the same, and the name is the first of those that are collected.
  induction cs generalizing double reading with
  | nil =>
    cases reading with
    | named name => rw [value, value, hput name (h _ List.mem_cons_self)]
    | _ => rw [value, value]
  | cons c cs ih =>
    cases reading with
    | ended => exact value_ended known known' double (c :: cs)
    | afterBackslash => rw [value, value, ih h]
    | plain =>
      rw [substituted] at h
      rw [value, value]
      split_ifs at h ⊢
      iterate 5 rw [ih h]
      · exact value_ended known known' double cs
      · rw [ih h]
    | single =>
      rw [substituted] at h
      rw [value, value]
      split_ifs at h ⊢ <;> rw [ih h]
    | braced name =>
      rw [substituted] at h
      rw [value, value]
      split_ifs at h ⊢
      · obtain ⟨hname, hrest⟩ := List.forall_mem_cons.1 h
        rw [ih hrest, hput name hname]
      · rw [ih h]
    | named name =>
      rw [substituted] at h
      rw [value, value]
      split_ifs at h ⊢
      · rw [ih h]
      · rw [ih h]
      all_goals
        obtain ⟨hname, hrest⟩ := List.forall_mem_cons.1 h
        rw [ih hrest, hput name hname]

/-- The names of the variables whose values a line puts in. -/
def references (line : List Char) : List String :=
  match target (Text.trimChars line) with
  | none => []
  | some (_, cs) => if cs = [] ∨ cs.head? = some '#' then [] else substituted false .plain cs

/-- Lines that put a variable in nowhere assign the same to all others, whatever it is. -/
theorem without_assign {name : String} {lines : List (List Char)}
    (h : ∀ line ∈ lines, name ∉ references line) {known known' : Environment}
    (hknown : known.without name = known'.without name) :
    (assign known lines).without name = (assign known' lines).without name := by
  -- The variables that are known grow from line to line, on both sides by the same ones.
  induction lines generalizing known known' with
  | nil => exact hknown
  | cons line rest ih =>
    obtain ⟨hline, hrest⟩ := List.forall_mem_cons.1 h
    rw [assign, assign]
    dsimp only
    by_cases hblank : Text.trimChars line = [] ∨ (Text.trimChars line).head? = some '#'
    · rw [if_pos hblank, if_pos hblank]
      exact ih hrest hknown
    rw [if_neg hblank, if_neg hblank]
    unfold references at hline
    cases htarget : target (Text.trimChars line) with
    | none => exact hknown
    | some found =>
      obtain ⟨key, cs⟩ := found
      rw [htarget] at hline
      dsimp only at hline ⊢
      have hread :
          (if cs = [] ∨ cs.head? = some '#' then some [] else value known false .plain cs) =
            if cs = [] ∨ cs.head? = some '#' then some [] else value known' false .plain cs := by
        split_ifs at hline ⊢
        · rfl
        · refine value_congr fun other hother => Environment.get?_congr ?_ hknown
          rintro rfl
          exact hline hother
      rw [hread]
      cases (if cs = [] ∨ cs.head? = some '#' then some [] else value known' false .plain cs) with
      | none => exact hknown
      | some v =>
        dsimp only
        by_cases hkey : String.ofList key = name
        · -- only the variable itself is assigned, if it is assigned at all
          have hadd : ∀ known : Environment,
              (known ++ [(String.ofList key, String.ofList v)]).without name =
                known.without name := by
            intro known
            rw [Environment.without_append, hkey]
            simp [Environment.without]
          split_ifs
          all_goals
            refine ih hrest ?_
            simp only [hadd, hknown]
        · rw [Environment.get?_congr hkey hknown]
          split_ifs
          · exact ih hrest hknown
          · refine ih hrest ?_
            rw [Environment.without_append, Environment.without_append, hknown]

/-- The lines of a file, without a mark of its encoding. -/
def linesOf (text : String) : List (List Char) :=
  let cs := match text.toList with
    | '\ufeff' :: cs => cs
    | cs => cs
  lines (cs.length + 1) cs

/-- The names of the variables whose values a file puts in. -/
def putIn (text : String) : List String := (linesOf text).flatMap references

/-- A file that does not put a variable in comes to the same for all others, whatever it is. -/
theorem without_load {name text : String} (h : name ∉ putIn text) {known known' : Environment}
    (hknown : known.without name = known'.without name) :
    (load known text).without name = (load known' text).without name :=
  without_assign (fun line hline hname => h (List.mem_flatMap.2 ⟨line, hline, hname⟩)) hknown

end EnvironmentFile

/-- The names of the variables whose values the file of environment variables of a project puts
in. -/
def putIn (tree : Entry) : List String :=
  match tree.read environmentFile with
  | .ok (.text text) => EnvironmentFile.putIn text
  | .ok (.binary readable) => EnvironmentFile.putIn readable
  | .error _ => []

/-- What a run knows of all other variables does not depend on one that is put in nowhere. -/
theorem without_fullEnvironment {name : String} {tree : Entry} (h : name ∉ putIn tree)
    {environment environment' : Environment}
    (hsame : environment.without name = environment'.without name) :
    (fullEnvironment tree environment).without name =
      (fullEnvironment tree environment').without name := by
  unfold putIn at h
  unfold fullEnvironment
  split
  next text hread =>
    rw [hread] at h
    exact EnvironmentFile.without_load h hsame
  next readable hread =>
    rw [hread] at h
    exact EnvironmentFile.without_load h hsame
  next => exact hsame

end IconSubset.Config
