import IconSubset.Proofs.Extraction.Contribution
import IconSubset.Proofs.Printing.Names

/-!
# What pieces stand for

Strings, templates and text between tags are read piece by piece. What the nodes of the shapes of
pieces stand for is what the pieces stand for, one after the other (`flatMap_nodes_shapes`). The
shapes join plain characters to tokens, which is of no account for what they stand for.
-/

namespace IconSubset.Tsx.Constant

open Syntax (Kind Node Role partText templatePartText)
open Shape

/-- How a piece is written. -/
def Piece.text : Piece → List Char
  | .plain c => [c]
  | .escape body => '\\' :: body
  | .reference body => '&' :: body

/-- What a piece stands for. -/
def Piece.decoded : Piece → List Char
  | .plain c => [c]
  | .escape body => Syntax.escapedText body
  | .reference body => (Html.decode (String.ofList ('&' :: body))).toList

/-- Whether a piece is a character reference. -/
def Piece.isReference : Piece → Bool
  | .reference _ => true
  | _ => false

/-! ## The shapes of pieces -/

/-- A plain character is a token of its own, or joins the token behind it. -/
theorem Piece.shapes_plain_cons (kind : Kind) (c : Char) (rest : List Piece) :
    (∃ role text more, Piece.shapes kind rest = .token kind role text :: more ∧
        Piece.shapes kind (.plain c :: rest) = .token kind role (c :: text) :: more) ∨
      Piece.shapes kind (.plain c :: rest) = .token kind none [c] :: Piece.shapes kind rest := by
  rw [Piece.shapes]
  split
  · next k role text more heq =>
    by_cases hk : k = kind
    · subst hk
      exact .inl ⟨role, text, more, heq, if_pos rfl⟩
    · rw [if_neg hk]
      exact .inr (by rw [heq])
  · exact .inr rfl

/-- The shapes of pieces are tokens of the given kind, and of the two kinds of other pieces where
there are such. -/
theorem Piece.allKinds_shapes {p : Kind → Bool} {kind : Kind} (hkind : p kind = true)
    {pieces : List Piece} (hescape : ∀ body, .escape body ∈ pieces → p .escapeSequence = true)
    (hreference : ∀ body, .reference body ∈ pieces → p .characterReference = true) :
    allKindsOfAll p (Piece.shapes kind pieces) = true := by
  induction pieces with
  | nil => rfl
  | cons q rest ih =>
    have hrest := ih (fun body h => hescape body (List.mem_cons_of_mem q h))
      fun body h => hreference body (List.mem_cons_of_mem q h)
    cases q with
    | plain c =>
      obtain ⟨role, text, more, hshapes, hjoined⟩ | hown := Piece.shapes_plain_cons kind c rest
      · rw [hshapes] at hrest
        rw [hjoined]
        exact hrest
      · rw [hown, allKindsOfAll, hrest, allKinds, hkind]
        rfl
    | escape body =>
      rw [Piece.shapes, allKindsOfAll, allKinds, hescape body List.mem_cons_self, hrest]
      rfl
    | reference body =>
      rw [Piece.shapes, allKindsOfAll, allKinds, hreference body List.mem_cons_self, hrest]
      rfl

section Nodes

variable {kind : Kind} {read : Node → List Char} {text : Piece → List Char}

/-- What the nodes of pieces are read as is what each piece is read as, when a token of plain
characters is read as these. -/
theorem flatMap_nodes_shapes (hplain : ∀ c, text (.plain c) = [c])
    (hfragment : ∀ role start cs, read (.mk kind role start (String.ofList cs) false []) = cs) :
    ∀ {pieces : List Piece},
      (∀ body, .escape body ∈ pieces → ∀ start,
        read (.mk .escapeSequence none start (String.ofList ('\\' :: body)) false []) =
          text (.escape body)) →
      (∀ body, .reference body ∈ pieces → ∀ start,
        read (.mk .characterReference none start (String.ofList ('&' :: body)) false []) =
          text (.reference body)) →
      ∀ start, (nodesOfAll start (Piece.shapes kind pieces)).flatMap read = pieces.flatMap text
  | [], _, _, _ => rfl
  | .plain c :: rest, hescape, hreference, start => by
    have hrest := flatMap_nodes_shapes hplain hfragment
      (fun body h => hescape body (List.mem_cons_of_mem _ h))
      (fun body h => hreference body (List.mem_cons_of_mem _ h))
    rw [List.flatMap_cons, hplain]
    obtain ⟨role, cs, more, hshapes, hjoined⟩ | hown := Piece.shapes_plain_cons kind c rest
    · -- The token behind starts one character later than the joined one.
      have hmore := hrest (start.after [c])
      rw [hshapes] at hmore
      rw [hjoined, ← hmore]
      show read _ ++ (nodesOfAll (start.after ([c] ++ cs)) more).flatMap read =
        [c] ++ (read _ ++ (nodesOfAll ((start.after [c]).after cs) more).flatMap read)
      rw [hfragment, hfragment, Syntax.Position.after_append]
      rfl
    · rw [hown]
      show read _ ++ (nodesOfAll _ (Piece.shapes kind rest)).flatMap read = _
      rw [hfragment, hrest]
  | .escape body :: rest, hescape, hreference, start => by
    rw [Piece.shapes, List.flatMap_cons]
    show read _ ++ (nodesOfAll _ (Piece.shapes kind rest)).flatMap read = _
    rw [hescape body List.mem_cons_self, flatMap_nodes_shapes hplain hfragment
      (fun body h => hescape body (List.mem_cons_of_mem _ h))
      (fun body h => hreference body (List.mem_cons_of_mem _ h))]
  | .reference body :: rest, hescape, hreference, start => by
    rw [Piece.shapes, List.flatMap_cons]
    show read _ ++ (nodesOfAll _ (Piece.shapes kind rest)).flatMap read = _
    rw [hreference body List.mem_cons_self, flatMap_nodes_shapes hplain hfragment
      (fun body h => hescape body (List.mem_cons_of_mem _ h))
      (fun body h => hreference body (List.mem_cons_of_mem _ h))]

end Nodes

/-! ## Strings and templates -/

section Strings

variable (quote : String) (pieces : List Piece) (start : Syntax.Position)

/-- The children of a string are its quotes and the nodes of its pieces. -/
theorem flatMap_quoted (read : Node → List Char)
    (hquote : ∀ start, read ((markShape quote).node start) = []) :
    (nodesOfAll start (markShape quote :: Piece.shapes .stringFragment pieces ++
        [markShape quote])).flatMap read =
      (nodesOfAll (start.after quote.toList)
        (Piece.shapes .stringFragment pieces)).flatMap read := by
  rw [List.cons_append, Printing.nodesOfAll_mark, nodesOfAll_append, List.flatMap_cons,
    List.flatMap_append, hquote, List.nil_append]
  show _ ++ (read _ ++ []) = _
  rw [List.append_nil, List.append_right_eq_self]
  exact hquote _

/-- A string stands for what its pieces stand for. -/
theorem stringText_pieces : Syntax.stringText (nodesOfAll start
      (markShape quote :: Piece.shapes .stringFragment pieces ++ [markShape quote])) =
    String.ofList (pieces.flatMap Piece.decoded) := by
  unfold Syntax.stringText
  rw [flatMap_quoted quote pieces start partText fun _ => rfl]
  refine congrArg String.ofList (flatMap_nodes_shapes (fun _ => rfl) (fun _ _ _ => ?_)
    (fun body _ _ => ?_) (fun body _ _ => rfl) _)
  · exact String.toList_ofList
  · show Syntax.escapedText (Syntax.afterBackslash (String.ofList ('\\' :: body)).toList) = _
    rw [String.toList_ofList]
    rfl

/-- A template without substitutions is one stretch of what its parts stand for. -/
theorem segments_eq {parts : List Node} (h : ∀ n ∈ parts, n.kind ≠ .templateSubstitution) :
    Syntax.segments parts = [parts.flatMap templatePartText] := by
  induction parts with
  | nil => rfl
  | cons n rest ih =>
    rw [Syntax.segments, if_neg (h n List.mem_cons_self),
      ih fun m hm => h m (List.mem_cons_of_mem n hm)]
    rfl

/-- A template without references stands for what its pieces stand for. -/
theorem templateSegments_pieces (h : ∀ p ∈ pieces, p.isReference = false) :
    Syntax.templateSegments (nodesOfAll start
        (markShape quote :: Piece.shapes .stringFragment pieces ++ [markShape quote])) =
      [String.ofList (pieces.flatMap Piece.decoded)] := by
  have hkinds : allKindsOfAll (· ≠ .templateSubstitution)
      (markShape quote :: Piece.shapes .stringFragment pieces ++ [markShape quote]) = true := by
    rw [List.cons_append, allKindsOfAll, allKindsOfAll_append,
      Piece.allKinds_shapes rfl (fun _ _ => rfl) fun _ _ => rfl]
    rfl
  unfold Syntax.templateSegments
  rw [segments_eq fun n hn => of_decide_eq_true (kind_of_within_all _ hkinds n hn n .self).2,
    flatMap_quoted quote pieces start templatePartText fun _ => rfl,
    List.map_singleton]
  congr 2
  refine flatMap_nodes_shapes (fun _ => rfl) (fun _ _ _ => String.toList_ofList)
    (fun body _ _ => ?_) (fun body hbody => ?_) _
  · show Syntax.escapedText (Syntax.afterBackslash (String.ofList ('\\' :: body)).toList) = _
    rw [String.toList_ofList]
    rfl
  · exact absurd (h _ hbody) (fun h => Bool.noConfusion h)

end Strings

/-! ## Text between tags -/

end IconSubset.Tsx.Constant
