import IconSubset.Files.Path
import IconSubset.Proofs.Text.Bytes
import Mathlib.Data.List.Lex
import Mathlib.Data.Prod.Lex
import Mathlib.Order.Defs.LinearOrder

/-!
# The order of paths

Paths are compared step by step. Each step has a key (`Step.key`) that puts the beginnings of paths
and the way up ahead of names, and the order of paths is the lexicographic order of the keys of
their steps (`atMost_iff`), so it is total (`atMost_total`) and transitive (`atMost_trans`).

A path that is put together from names below a directory tells the names: `foldl_child_injective`
says so for names that can stand in a directory (`IsName`). It splits the path at its slashes again
(`splitSlashes_joinSlashes`).
-/

namespace IconSubset.Path

/-! ## Keys -/

/-- What a step is compared by: its sort, and the bytes of a name as numbers. -/
def Step.key : Step → ℕ ×ₗ List ℕ
  | root => toLex (0, [])
  | here => toLex (1, [])
  | up => toLex (2, [])
  | name text => toLex (3, text.bytes.map UInt8.toNat)

/-- Bytes are in the order of their numbers. -/
theorem map_toNat_lt_iff (as bs : List UInt8) :
    as.map UInt8.toNat < bs.map UInt8.toNat ↔ as < bs := by
  induction as generalizing bs with
  | nil => cases bs <;> simp
  | cons a as ih =>
    cases bs with
    | nil => simp
    | cons b bs =>
      rw [List.map_cons, List.map_cons, List.cons_lt_cons_iff, List.cons_lt_cons_iff, ih,
        UInt8.toNat_inj]
      rfl

/-- One step comes before another when its key is less. -/
theorem Step.before_iff (a b : Step) : a.before b = true ↔ a.key < b.key := by
  cases a with
  | root => cases b <;> simp [before, key, Prod.Lex.toLex_lt_toLex]
  | here => cases b <;> simp [before, key, Prod.Lex.toLex_lt_toLex]
  | up => cases b <;> simp [before, key, Prod.Lex.toLex_lt_toLex]
  | name text => cases b <;> simp [before, key, Prod.Lex.toLex_lt_toLex, map_toNat_lt_iff]

/-- One list of steps comes before another when the list of its keys is less. -/
theorem stepsBefore_iff (as bs : List Step) :
    stepsBefore as bs = true ↔ as.map Step.key < bs.map Step.key := by
  induction as generalizing bs with
  | nil =>
    cases bs with
    | nil => simp [stepsBefore]
    | cons b bs => simp [stepsBefore]
  | cons a as ih =>
    cases bs with
    | nil => simp [stepsBefore]
    | cons b bs =>
      rw [stepsBefore, Bool.or_eq_true, Bool.and_eq_true, Bool.not_eq_true', ih, List.map_cons,
        List.map_cons, List.cons_lt_cons_iff, a.before_iff, ← Bool.not_eq_true, b.before_iff]
      constructor
      · rintro (hlt | ⟨hnot, hlt⟩)
        · exact .inl hlt
        · rcases lt_trichotomy a.key b.key with h | h | h
          · exact .inl h
          · exact .inr ⟨h, hlt⟩
          · exact absurd h hnot
      · rintro (hlt | ⟨heq, hlt⟩)
        · exact .inl hlt
        · exact .inr ⟨heq.symm.not_lt, hlt⟩

/-- A path stands before another or at its place when the keys of its steps say so. -/
theorem atMost_iff (a b : ByteString) :
    atMost a b = true ↔ (steps a).map Step.key ≤ (steps b).map Step.key := by
  rw [atMost, Bool.not_eq_true', ← Bool.not_eq_true, stepsBefore_iff, not_lt]

/-- Of two paths one stands before the other or at its place. -/
theorem atMost_total (a b : ByteString) : (atMost a b || atMost b a) = true := by
  rw [Bool.or_eq_true, atMost_iff, atMost_iff]
  exact le_total _ _

/-- The order of paths is transitive. -/
theorem atMost_trans (a b c : ByteString) (hab : atMost a b = true) (hbc : atMost b c = true) :
    atMost a c = true := by
  rw [atMost_iff] at hab hbc ⊢
  exact hab.trans hbc

/-! ## Paths below a directory -/

/-- What can be the name of something in a directory. -/
structure IsName (name : ByteString) : Prop where
  /-- It has bytes. -/
  ne_nil : name.bytes ≠ []
  /-- None of them is a slash. -/
  slash : slash ∉ name.bytes

/-- Whether something can be such a name is told by its bytes. -/
instance (name : ByteString) : Decidable (IsName name) :=
  decidable_of_iff (name.bytes ≠ [] ∧ Path.slash ∉ name.bytes)
    ⟨fun h => ⟨h.1, h.2⟩, fun h => ⟨h.ne_nil, h.slash⟩⟩

/-- A part without slashes is its only part. -/
theorem splitSlashes_part {part : List UInt8} (h : slash ∉ part) : splitSlashes part = [part] := by
  induction part with
  | nil => rfl
  | cons c cs ih =>
    have hc : c ≠ slash := fun he => h (he ▸ List.mem_cons_self)
    rw [splitSlashes, if_neg hc, ih fun hcs => h (List.mem_cons_of_mem c hcs)]

/-- A part before a slash is the first part. -/
theorem splitSlashes_append {part : List UInt8} (h : slash ∉ part) (cs : List UInt8) :
    splitSlashes (part ++ slash :: cs) = part :: splitSlashes cs := by
  induction part with
  | nil => rw [List.nil_append, splitSlashes, if_pos rfl]
  | cons c part ih =>
    have hc : c ≠ slash := fun he => h (he ▸ List.mem_cons_self)
    rw [List.cons_append, splitSlashes, if_neg hc,
      ih fun hpart => h (List.mem_cons_of_mem c hpart)]

/-- Parts with slashes between them are split into the parts. -/
theorem splitSlashes_joinSlashes {parts : List (List UInt8)} (hne : parts ≠ [])
    (h : ∀ part ∈ parts, slash ∉ part) : splitSlashes (joinSlashes parts) = parts := by
  induction parts with
  | nil => exact absurd rfl hne
  | cons part rest ih =>
    have hpart := h part List.mem_cons_self
    cases rest with
    | nil => exact splitSlashes_part hpart
    | cons next rest =>
      have hrest := fun p hp => h p (List.mem_cons_of_mem part hp)
      rw [joinSlashes, splitSlashes_append hpart, ih (List.cons_ne_nil next rest) hrest]
      exact fun hnil => absurd hnil (List.cons_ne_nil next rest)

/-- The bytes that the path of a directory puts before the names in it. -/
def stem (directory : ByteString) : List UInt8 :=
  if directory.bytes = [] ∨ directory.bytes.getLast? = some slash then directory.bytes
  else directory.bytes ++ [slash]

/-- The path of something in a directory is the stem of the directory and the name. -/
theorem bytes_child (directory name : ByteString) :
    (child directory name).bytes = stem directory ++ name.bytes := by
  unfold child stem
  split_ifs with h
  · rfl
  · rfl

/-- A path that ends in a name puts a slash behind it. -/
theorem stem_child (directory : ByteString) {name : ByteString} (h : IsName name) :
    stem (child directory name) = stem directory ++ name.bytes ++ [slash] := by
  have hne : (child directory name).bytes ≠ [] := by
    rw [bytes_child]
    exact fun he => h.ne_nil (List.append_eq_nil_iff.1 he).2
  have hend : (child directory name).bytes.getLast? ≠ some slash := by
    rw [bytes_child, List.getLast?_append_of_ne_nil _ h.ne_nil]
    -- The last byte is one of the name.
    exact fun hlast => h.slash (List.mem_of_getLast? hlast)
  rw [stem, if_neg (not_or_intro hne hend), bytes_child]

/-- The path to something below a directory is the stem of the directory and the names that lead
there, with slashes between them. -/
theorem bytes_foldl_child (directory : ByteString) {name : ByteString} {names : List ByteString}
    (h : ∀ n ∈ name :: names, IsName n) : ((name :: names).foldl child directory).bytes =
      stem directory ++ joinSlashes ((name :: names).map ByteString.bytes) := by
  induction names generalizing directory name with
  | nil => exact bytes_child directory name
  | cons next rest ih =>
    have hname : IsName name := h name List.mem_cons_self
    rw [List.foldl_cons, ih (child directory name) fun n hn => h n (List.mem_cons_of_mem name hn),
      stem_child directory hname]
    simp [joinSlashes]

/-- Different names lead to different paths below a directory. -/
theorem foldl_child_injective {directory : ByteString} {names others : List ByteString}
    (hnames : ∀ n ∈ names, IsName n) (hothers : ∀ n ∈ others, IsName n)
    (h : names.foldl child directory = others.foldl child directory) : names = others := by
  -- A path below a directory is longer than that of the directory.
  have hlonger : ∀ {name : ByteString} {rest : List ByteString}, (∀ n ∈ name :: rest, IsName n) →
      (name :: rest).foldl child directory ≠ directory := by
    intro name rest hrest he
    have hlength := congrArg (fun path : ByteString => path.bytes.length) he
    have hname : 0 < name.bytes.length :=
      List.length_pos_of_ne_nil (hrest name List.mem_cons_self).ne_nil
    have hstem : directory.bytes.length ≤ (stem directory).length := by
      unfold stem
      split_ifs <;> simp
    have hjoin : name.bytes.length ≤
        (joinSlashes ((name :: rest).map ByteString.bytes)).length := by
      cases rest with
      | nil => exact le_rfl
      | cons next rest => simp [joinSlashes]
    simp only [bytes_foldl_child directory hrest, List.length_append] at hlength
    omega
  cases names with
  | nil =>
    cases others with
    | nil => rfl
    | cons other rest => exact absurd h.symm (hlonger hothers)
  | cons name names =>
    cases others with
    | nil => exact absurd h (hlonger hnames)
    | cons other rest =>
      have hlist := congrArg ByteString.bytes h
      rw [bytes_foldl_child directory hnames, bytes_foldl_child directory hothers] at hlist
      have hsplit := congrArg splitSlashes (List.append_cancel_left hlist)
      have hslash : ∀ {ns : List ByteString}, (∀ n ∈ ns, IsName n) →
          ∀ part ∈ ns.map ByteString.bytes, slash ∉ part := by
        intro ns hns part hpart
        obtain ⟨n, hn, rfl⟩ := List.mem_map.1 hpart
        exact (hns n hn).slash
      rw [splitSlashes_joinSlashes (by simp) (hslash hnames),
        splitSlashes_joinSlashes (by simp) (hslash hothers)] at hsplit
      exact (List.map_injective_iff.2 fun _ _ => ByteString.ext) hsplit

end IconSubset.Path
