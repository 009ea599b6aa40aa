import IconSubset.Files.Tree
import IconSubset.Proofs.Files.PathOrder
import Mathlib.Data.List.Basic

/-!
# Well-formed trees and the files in them

In a well-formed tree the entries of a directory have different names (`Entry.IsTree`). What a path
leads to in such a tree is a well-formed tree again (`Entry.IsTree.of_find`). `Entry.Holds` speaks
of the files that lie in an entry, links not followed, with the names that lead to them.
-/

namespace IconSubset.Entry

/-- A tree in which the entries of each directory have different names that can stand in a path. -/
inductive IsTree : Entry → Prop
  /-- A file is one. -/
  | file (content : FileContent) : IsTree (.file content)
  /-- A link is one. -/
  | link (target : ByteString) : IsTree (.link target)
  /-- A directory of trees is one. -/
  | directory {entries : List (ByteString × Entry)} (hdistinct : (entries.map (·.1)).Nodup)
      (hnames : ∀ x ∈ entries, Path.IsName x.1) (h : ∀ x ∈ entries, IsTree x.2) :
      IsTree (.directory entries)

/-- A file lies in an entry, and the names lead to it without a link. -/
inductive Holds (content : FileContent) : List ByteString → Entry → Prop
  /-- A file holds itself. -/
  | file : Holds content [] (.file content)
  /-- A directory holds what its entries hold. -/
  | inside {entries : List (ByteString × Entry)} {x : ByteString × Entry} {names : List ByteString}
      (hx : x ∈ entries) (h : Holds content names x.2) :
      Holds content (x.1 :: names) (.directory entries)

/-- What stands under a name in a list of entries is one of them. -/
theorem mem_of_lookup {name : ByteString} {e : Entry} {entries : List (ByteString × Entry)}
    (h : lookup name entries = some e) : (name, e) ∈ entries := by
  induction entries with
  | nil => cases h
  | cons x rest ih =>
    obtain ⟨n, old⟩ := x
    rw [lookup] at h
    split_ifs at h with hn
    · obtain rfl := Option.some.inj h
      rw [← hn]
      exact List.mem_cons_self
    · exact List.mem_cons_of_mem _ (ih h)

/-- What names lead to in a well-formed tree is well-formed. -/
theorem IsTree.of_at? {tree e : Entry} (htree : tree.IsTree) {names : List ByteString}
    (h : tree.at? names = some e) : e.IsTree := by
  induction names generalizing tree with
  | nil =>
    obtain rfl : tree = e := by simpa [at?] using h
    exact htree
  | cons name names ih =>
    cases htree with
    | file content => simp [at?] at h
    | link target => simp [at?] at h
    | directory _ _ hentries =>
      rw [at?] at h
      split at h
      · next inner hinner => exact ih (hentries _ (mem_of_lookup hinner)) h
      · cases h

/-- What stands at the end of a walk is what some names lead to. -/
theorem exists_at?_of_walk (tree : Entry) (final : Bool) {place : Place} {e : Entry}
    (he : place.occupant = some e) : ∀ (links : Nat) (position : List ByteString)
      (parts : List (List UInt8)), walk tree final links position parts = .ok place →
        ∃ names, tree.at? names = some e
  | links, position, [], h => by
    rw [walk.eq_def] at h
    cases h
    exact ⟨position.reverse, he⟩
  | links, position, part :: parts, h => by
    rw [walk.eq_def] at h
    dsimp only at h
    split at h
    · by_cases hidle : Path.isIdle part = true
      · rw [if_pos hidle] at h
        exact exists_at?_of_walk tree final he links position parts h
      rw [if_neg hidle] at h
      by_cases hup : part = [Path.dot, Path.dot]
      · rw [if_pos hup] at h
        cases position with
        | nil => cases h
        | cons _ above => exact exists_at?_of_walk tree final he links above parts h
      rw [if_neg hup] at h
      split at h
      · next target htarget =>
        by_cases hstop : parts = [] ∧ (!final) = true
        · rw [if_pos hstop] at h
          cases h
          obtain rfl := Option.some.inj he
          exact ⟨_, htarget⟩
        · -- The link is followed, which leaves one link less to follow.
          rw [if_neg hstop] at h
          cases links with
          | zero => cases h
          | succ links =>
            dsimp only at h
            split_ifs at h
            exact exists_at?_of_walk tree final he links position _ h
      · exact exists_at?_of_walk tree final he links _ parts h
      · split_ifs at h
        cases h
        cases he
    · cases h
    · cases h
  termination_by links _ parts => (links, parts.length)

/-- What a path leads to stands in the tree. -/
theorem exists_at?_of_find {tree e : Entry} {path : ByteString} (h : tree.find path = .ok e) :
    ∃ names, tree.at? names = some e := by
  unfold find locate at h
  split at h
  · next occupant _ _ hlocate =>
    cases h
    split_ifs at hlocate
    exact exists_at?_of_walk tree true rfl _ _ _ hlocate
  · cases h
  · cases h

/-- What a path leads to in a well-formed tree is well-formed. -/
theorem IsTree.of_find {tree e : Entry} (htree : tree.IsTree) {path : ByteString}
    (h : tree.find path = .ok e) : e.IsTree := by
  obtain ⟨names, hnames⟩ := exists_at?_of_find h
  exact htree.of_at? hnames

/-- The names that lead to a file in a well-formed tree can stand in a path. -/
theorem Holds.isName {content : FileContent} {names : List ByteString} {e : Entry}
    (h : Holds content names e) (htree : e.IsTree) : ∀ n ∈ names, Path.IsName n := by
  induction h with
  | file => exact fun n hn => absurd hn List.not_mem_nil
  | inside hx _ ih =>
    cases htree with
    | directory _ hnames hentries =>
      intro n hn
      rcases List.mem_cons.1 hn with rfl | hn
      · exact hnames _ hx
      · exact ih (hentries _ hx) n hn

end IconSubset.Entry
