import IconSubset.Proofs.Stylesheet.Opening

/-!
# Text that only looks like a tag

Comments and scripts may say anything, tags and doctypes included: in a document that is well-formed
without their text, the link goes to the same place whatever they say (`inject_hidden`).
-/

namespace IconSubset.Stylesheet

open Html (table lexer IsWellFormed)
open Parse (Source Subtree Memory leavesAll trees)
open Parse.Course (Passes Reads steps start)

/-! ## Splitting behind some text -/

/-- Text is split behind the text before it as it is split alone. -/
theorem splitAtByte_behind (before cs : List Char) (n : Nat) :
    splitAtByte (before ++ cs) ((String.ofList before).utf8ByteSize + n) =
      (before ++ (splitAtByte cs n).1, (splitAtByte cs n).2) := by
  induction before with
  | nil => simp
  | cons c before ih =>
    have hsize : (String.ofList (c :: before)).utf8ByteSize + n =
        c.utf8Size + ((String.ofList before).utf8ByteSize + n) := by
      rw [← List.singleton_append, String.ofList_append, String.utf8ByteSize_append, Nat.add_assoc]
      simp
    rw [List.cons_append, splitAtByte, if_pos (hsize ▸ Nat.le_add_right _ _), hsize,
      Nat.add_sub_cancel_left, ih]
    rfl

/-- Both parts make up the whole. -/
theorem splitAtByte_parts (cs : List Char) (n : Nat) :
    (splitAtByte cs n).1 ++ (splitAtByte cs n).2 = cs := by
  induction cs generalizing n with
  | nil => rfl
  | cons c cs ih =>
    rw [splitAtByte]
    split
    · exact congrArg (c :: ·) (ih _)
    · rfl

/-- A link whose place lies behind a beginning goes into the rest. -/
theorem inject_behind {front rest : String} {n : Nat} (link : String)
    (h : (site (front ++ rest)).place = front.utf8ByteSize + n) :
    inject (front ++ rest) link = front ++ String.ofList (splitAtByte rest.toList n).1 ++
      (site (front ++ rest)).wrap link ++ String.ofList (splitAtByte rest.toList n).2 := by
  have hsplit := splitAtByte_behind front.toList rest.toList n
  rw [String.ofList_toList] at hsplit
  unfold inject
  simp only [h, String.toList_append, hsplit, String.ofList_append, String.ofList_toList]

/-! ## The place behind a beginning -/

/-- Where a link goes, so many bytes further on. -/
def Site.further (n : Nat) : Site → Site
  | head place => head (n + place)
  | newHead place => newHead (n + place)
  | front place => front (n + place)

/-- The place is so many bytes further on. -/
theorem Site.place_further (n : Nat) (s : Site) : (s.further n).place = n + s.place := by
  cases s <;> rfl

/-- What is written does not depend on the place. -/
theorem Site.wrap_further (n : Nat) (link : String) (s : Site) :
    (s.further n).wrap link = s.wrap link := by
  cases s <;> rfl

/-- Tags further on are tags of the same names. -/
theorem findSome?_tag_further (name : String) (n : Nat) (ms : List Mark) :
    (ms.map (Mark.further n)).findSome? (Mark.tagStop name) =
      (ms.findSome? (Mark.tagStop name)).map (n + ·) := by
  induction ms with
  | nil => rfl
  | cons m ms ih =>
    have hm : (m.further n).tagStop name = (m.tagStop name).map (n + ·) := by
      cases m with
      | tag other stop =>
        unfold Mark.further Mark.tagStop
        dsimp only
        split <;> rfl
      | doctype stop => rfl
    rw [List.map_cons, List.findSome?_cons, List.findSome?_cons, hm, ih]
    cases m.tagStop name <;> rfl

/-- Doctypes further on are doctypes. -/
theorem findSome?_doctype_further (n : Nat) (ms : List Mark) :
    (ms.map (Mark.further n)).findSome? Mark.doctypeStop =
      (ms.findSome? Mark.doctypeStop).map (n + ·) := by
  induction ms with
  | nil => rfl
  | cons m ms ih =>
    cases m with
    | tag other stop => exact ih
    | doctype stop => rfl

/-- Where a link goes, given the marks behind a beginning. In the beginning there are no tags that
could be looked for, and the first doctype in it ends at the given byte. -/
def siteBehind (doctype : Option Nat) (n : Nat) (ms : List Mark) : Site :=
  match doctype, siteOf ms with
  | some stop, .front _ => .front stop
  | none, .front _ => (ms.findSome? Mark.doctypeStop).elim (.front 0) fun stop => .front (n + stop)
  | _, site => site.further n

/-- The place lies behind the doctype of the beginning, or at the very front, or it is one of the
rest. -/
theorem siteBehind_cases (doctype : Option Nat) (ms : List Mark) :
    (∀ n, siteBehind doctype n ms = .front (doctype.getD 0)) ∨
      ∃ s : Site, ∀ n, siteBehind doctype n ms = s.further n := by
  unfold siteBehind
  cases siteOf ms with
  | head place => exact .inr ⟨.head place, fun n => by cases doctype <;> rfl⟩
  | newHead place => exact .inr ⟨.newHead place, fun n => by cases doctype <;> rfl⟩
  | front place =>
    cases doctype with
    | some stop => exact .inl fun n => rfl
    | none =>
      cases ms.findSome? Mark.doctypeStop with
      | none => exact .inl fun n => rfl
      | some stop => exact .inr ⟨.front stop, fun n => rfl⟩

/-- The place behind a beginning without tags that could be looked for. -/
theorem siteOf_append {before : List Mark} (hhead : before.findSome? (Mark.tagStop "head") = none)
    (hhtml : before.findSome? (Mark.tagStop "html") = none) (n : Nat) (ms : List Mark) :
    siteOf (before ++ ms.map (Mark.further n)) =
      siteBehind (before.findSome? Mark.doctypeStop) n ms := by
  unfold siteBehind siteOf
  simp only [List.findSome?_append, hhead, hhtml, Option.none_or, findSome?_tag_further,
    findSome?_doctype_further]
  cases ms.findSome? (Mark.tagStop "head") with
  | some place => cases before.findSome? Mark.doctypeStop <;> rfl
  | none =>
    cases ms.findSome? (Mark.tagStop "html") with
    | some place => cases before.findSome? Mark.doctypeStop <;> rfl
    | none =>
      cases before.findSome? Mark.doctypeStop with
      | some stop => rfl
      | none => cases ms.findSome? Mark.doctypeStop <;> rfl

/-! ## Comments and scripts -/

/-- What text may be hidden in. -/
inductive Veil where
  /-- A comment. -/
  | comment
  /-- A script. -/
  | script

/-- The text with what it is hidden in. -/
def Veil.around : Veil → String → String
  | comment, text => "<!--" ++ text ++ "-->"
  | script, text => "<script>" ++ text ++ "</script>"

/-- What may be hidden. The text of a comment does not end it, and neither does that of a script:
when it has been compared with the end tag, all of that is left, so that no beginning of it is open
at the end of the text. -/
def Veil.Hides : Veil → String → Prop
  | comment, text => '\x00' ∉ text.toList ∧ ¬ "-->".toList <:+: text.toList
  | script, text => '\x00' ∉ text.toList ∧ Html.Lexer.endTagLeft ('<' :: '/' :: scriptName)
      ('<' :: '/' :: scriptName) text.toList = '<' :: '/' :: scriptName

/-- A script may say whatever does not contain its end tag and does not end with a beginning of
it. -/
theorem Veil.hides_script {text : String} (hnul : '\x00' ∉ text.toList)
    (hno : ∀ e, e <:+: text.toList → e.map Char.toLower ≠ "</script".toList)
    (hend : ∀ e, e <:+ text.toList → e ≠ [] → ¬ e.map Char.toLower <+: "</script".toList) :
    Veil.script.Hides text :=
  ⟨hnul, Html.Lexer.endTagLeft_eq hno hend⟩

/-- A beginning without tags that could be looked for, read to the same end whatever is hidden in
it. -/
structure Hidden (v : Veil) (p : String) (xs : List Nat) (memory : Memory) (text r : String)
    (ms : List Mark) (c : Parse.Course) : Prop where
  stands : Stands (.ofString (p ++ v.around text ++ r)) (p ++ v.around text).toList xs memory 0
    .nothing ms c
  noHead : ms.findSome? (Mark.tagStop "head") = none
  noHtml : ms.findSome? (Mark.tagStop "html") = none
  doctype : ms.findSome? Mark.doctypeStop = if p = "" then none else some p.utf8ByteSize

/-- A document begins with a doctype or without one. -/
theorem exists_stands_prologue {p : String} (hp : p = "" ∨ IsDoctype p.toList) :
    ∃ xs ∈ [[], [1, 4, 3, 2]], ∀ rest : String, ∃ c,
      Stands (.ofString (p ++ rest)) p.toList xs none 0 .nothing
        (if p = "" then [] else [.doctype p.utf8ByteSize]) c := by
  obtain rfl | hp := hp
  · exact ⟨[], by simp, fun rest => ⟨_, stands_start _⟩⟩
  · refine ⟨[1, 4, 3, 2], by simp, fun rest => ?_⟩
    have hne : p ≠ "" := by
      rintro rfl
      obtain ⟨w, word, text, h, -⟩ := hp
      simp at h
    have hplace : byteAt (.ofList (p.toList ++ rest.toList)) p.toList.length = p.utf8ByteSize := by
      have hbehind := byteAt_behind (.ofList rest.toList) p.toList 0
      rw [Source.behind_ofList, String.ofList_toList, byteAt_eq (.ofList rest.toList)] at hbehind
      simpa using hbehind
    obtain ⟨c, h⟩ := stands_doctype hp rest.toList
    rw [hplace] at h
    rw [if_neg hne, Source.ofString_eq, String.toList_append]
    exact ⟨c, h⟩

/-- Whatever is hidden, the same is behind it. -/
theorem exists_hidden (v : Veil) {p : String} (hp : p = "" ∨ IsDoctype p.toList) :
    ∃ xs memory, ∀ text r, v.Hides text → ∃ ms c, Hidden v p xs memory text r ms c := by
  obtain ⟨xs, hxs, hprologue⟩ := exists_stands_prologue hp
  cases v with
  | comment =>
    refine ⟨xs ++ [24], Html.Scanner.remember [], fun text r hhides => ?_⟩
    have hfront : (p ++ Veil.comment.around text).toList =
        p.toList ++ (['<', '!', '-', '-'] ++ text.toList ++ ['-', '-', '>']) := by
      simp [Veil.around]
    have hsource : Source.ofString (p ++ (Veil.comment.around text ++ r)) =
        .ofList (p.toList ++
          (['<', '!', '-', '-'] ++ text.toList ++ ['-', '-', '>'] ++ r.toList)) := by
      simp [Source.ofString_eq, Veil.around]
    obtain ⟨c, h⟩ := hprologue (Veil.comment.around text ++ r)
    obtain ⟨c', h'⟩ := stands_comment hxs hhides.1 hhides.2 r.toList hsource h
    rw [← hfront, ← String.append_assoc] at h'
    refine ⟨_, c', h', ?_, ?_, ?_⟩
    all_goals split <;> rfl
  | script =>
    refine ⟨xs ++ [5] ++ [18] ++ [2] ++ [23] ++ [7] ++ [20] ++ [2], some [],
      fun text r hhides => ?_⟩
    have hfront : (p ++ Veil.script.around text).toList = p.toList ++ ['<'] ++ scriptName ++
        ['>'] ++ text.toList ++ ['<', '/'] ++ scriptName ++ ['>'] := by
      simp [Veil.around, scriptName]
    have hsource : Source.ofString (p ++ (Veil.script.around text ++ r)) =
        .ofList (p.toList ++ ['<'] ++ scriptName ++ ['>'] ++ text.toList ++ ['<', '/'] ++
          scriptName ++ ['>'] ++ r.toList) := by
      simp [Source.ofString_eq, Veil.around, scriptName]
    obtain ⟨c, h⟩ := hprologue (Veil.script.around text ++ r)
    obtain ⟨c', h'⟩ := stands_script hxs hhides.1 hhides.2 r.toList hsource h
    rw [← hfront, ← String.append_assoc] at h'
    have hname : "script".map Char.toLower ≠ "head".map Char.toLower ∧
        "script".map Char.toLower ≠ "html".map Char.toLower := by
      simp [← String.toList_inj]
    refine ⟨_, c', h', ?_, ?_, ?_⟩
    · split <;> simp [Mark.tagStop, hname.1]
    · split <;> simp [Mark.tagStop, hname.2]
    · split <;> rfl

/-- No text at all may be hidden. -/
theorem Veil.hides_empty (v : Veil) : v.Hides "" := by
  cases v with
  | comment => exact ⟨by simp, by simp⟩
  | script => exact ⟨by simp, rfl⟩

/-- The document is shortest when no text is hidden. -/
theorem Veil.length_around (v : Veil) (text : String) :
    (v.around text).toList.length = (v.around "").toList.length + text.toList.length := by
  cases v with
  | comment =>
    simp [around]
    omega
  | script =>
    simp [around]
    omega

/-- Behind what is hidden, the rest of the document is read in the same way, and its marks tell
where a link goes. -/
theorem exists_marks (v : Veil) {p : String} (hp : p = "" ∨ IsDoctype p.toList) {r : String}
    (hwell : IsWellFormed (p ++ v.around "" ++ r)) : ∃ ms, ∀ text, v.Hides text →
      IsWellFormed (p ++ v.around text ++ r) ∧ site (p ++ v.around text ++ r) =
        siteBehind (if p = "" then none else some p.utf8ByteSize)
          (p ++ v.around text).utf8ByteSize ms := by
  have hsource : ∀ text, Source.ofString (p ++ v.around text ++ r) =
      (Source.ofString r).behind (p ++ v.around text).toList := by
    intro text
    rw [Source.ofString_eq, Source.ofString_eq, Source.behind_ofList, String.toList_append]
  obtain ⟨xs, memory, hhidden⟩ := exists_hidden v hp
  obtain ⟨ms₀, c₀, h₀⟩ := hhidden "" r v.hides_empty
  obtain ⟨ls, root, hlength, hreads⟩ := isWellFormed_iff.1 hwell
  obtain ⟨ls₀, hlength₀, hpasses₀⟩ := h₀.stands.passes
  obtain ⟨rest, rfl, hrest⟩ := hpasses₀.rest hreads
  refine ⟨(scan (.ofString r) ⟨0, 0, .nothing⟩ (leavesAll rest)).2, fun text hhides => ?_⟩
  obtain ⟨ms, c, h⟩ := hhidden text r hhides
  obtain ⟨ls', hlength', hpasses⟩ := h.stands.passes
  have hsize : (Source.ofString (p ++ v.around "" ++ r)).chars.size ≤
      (Source.ofString (p ++ v.around text ++ r)).chars.size := by
    have hlonger := v.length_around text
    simp only [Source.ofString_eq, Source.size_ofList, String.toList_append, List.length_append]
    omega
  have hsteps : steps (.ofString (p ++ v.around "" ++ r)) ≤
      steps (.ofString (p ++ v.around text ++ r)) := by
    unfold steps
    omega
  obtain ⟨root', hrest'⟩ : ∃ root', Reads table.get (.ofString (p ++ v.around text ++ r))
      (lexer table.get.grammar) (steps (.ofString (p ++ v.around text ++ r))) c rest root' := by
    rw [hsource] at hrest ⊢
    exact Html.reads_behind (k := 0) (hsource text ▸ hsource "" ▸ hsteps) hrest h₀.stands.place
      h.stands.place (h₀.stands.memory_eq.trans h.stands.memory_eq.symm)
      (h₀.stands.behind.alike h.stands.behind)
  have hreads' := hpasses.reads hrest'
  have hfuel : (ls' ++ rest).length ≤
      8 * (Source.ofString (p ++ v.around text ++ r)).chars.size + 64 := by
    rw [List.length_append] at hlength ⊢
    omega
  refine ⟨isWellFormed_iff.2 ⟨_, _, hfuel, hreads'⟩, ?_⟩
  have hprefix : leavesAll ls' = leavesAll (trees c.frames) := by
    rw [hpasses.leaves_eq]
    rfl
  have hmarks := scan_behind (.ofString r) (p ++ v.around text).toList ⟨0, 0, .nothing⟩
    (leavesAll rest)
  rw [← hsource, String.ofList_toList] at hmarks
  rw [site_of_reads hfuel hreads', Parse.leavesAll_append, scan_append, hprefix, h.stands.scanned]
  show siteOf (ms ++ (scan _ ⟨(p ++ v.around text).toList.length + 0, 0, .nothing⟩
    (leavesAll rest)).2) = _
  rw [hmarks, siteOf_append h.noHead h.noHtml, h.doctype]

/-- A link goes to the same place whatever is hidden in a comment or in a script at the beginning of
a document or behind its doctype, in front of what is hidden or behind it, when the document is
well-formed without the hidden text. With the text it is well-formed as well. -/
theorem inject_hidden (v : Veil) (p r : String) (hp : p = "" ∨ IsDoctype p.toList)
    (hwell : IsWellFormed (p ++ v.around "" ++ r)) :
    (∀ text, v.Hides text → IsWellFormed (p ++ v.around text ++ r)) ∧
    ∃ s : Site,
      (∃ before after, p = before ++ after ∧ ∀ text link, v.Hides text →
        inject (p ++ v.around text ++ r) link =
          before ++ s.wrap link ++ after ++ v.around text ++ r) ∨
      ∃ before after, r = before ++ after ∧ ∀ text link, v.Hides text →
        inject (p ++ v.around text ++ r) link =
          p ++ v.around text ++ before ++ s.wrap link ++ after := by
  obtain ⟨ms, hms⟩ := exists_marks v hp hwell
  refine ⟨fun text hhides => (hms text hhides).1, ?_⟩
  obtain hfront | ⟨s, hrest⟩ := siteBehind_cases (if p = "" then none else some p.utf8ByteSize) ms
  · have hplace : (if p = "" then none else some p.utf8ByteSize).getD 0 = p.utf8ByteSize := by
      split
      next hempty => rw [hempty]; rfl
      next => rfl
    refine ⟨.front 0, .inl ⟨p, "", by simp, fun text link hhides => ?_⟩⟩
    have hsite : site (p ++ v.around text ++ r) = .front p.utf8ByteSize := by
      rw [(hms text hhides).2, hfront, hplace]
    rw [inject_of_site link String.append_assoc (by rw [hsite]; rfl), hsite]
    simp [Site.wrap, String.append_assoc]
  · refine ⟨s, .inr ⟨String.ofList (splitAtByte r.toList s.place).1,
      String.ofList (splitAtByte r.toList s.place).2, ?_, fun text link hhides => ?_⟩⟩
    · rw [← String.ofList_append, splitAtByte_parts, String.ofList_toList]
    · have hsite := (hms text hhides).2.trans (hrest _)
      rw [inject_behind link (by rw [hsite, Site.place_further]), hsite, Site.wrap_further]

/-- A comment behind a doctype may say that there is a head: the link goes into the one behind
it. -/
theorem inject_hidden_head :
    IsWellFormed ("<!doctype html>" ++ Veil.comment.around "" ++ "<head></head>") ∧
    Veil.comment.Hides "<head>" ∧
    ∃ s : Site,
      (∃ before after, "<!doctype html>" = before ++ after ∧ ∀ text link, Veil.comment.Hides text →
        inject ("<!doctype html>" ++ Veil.comment.around text ++ "<head></head>") link =
          before ++ s.wrap link ++ after ++ Veil.comment.around text ++ "<head></head>") ∨
      ∃ before after, "<head></head>" = before ++ after ∧ ∀ text link, Veil.comment.Hides text →
        inject ("<!doctype html>" ++ Veil.comment.around text ++ "<head></head>") link =
          "<!doctype html>" ++ Veil.comment.around text ++ before ++ s.wrap link ++ after := by
  have hdoctype : IsDoctype "<!doctype html>".toList :=
    ⟨[], ['d', 'o', 'c', 't', 'y', 'p', 'e'], [' ', 'h', 't', 'm', 'l'], rfl, by simp, by simp,
      by simp, by simp, by simp [Html.isSpace]⟩
  have hwell : IsWellFormed ("<!doctype html>" ++ Veil.comment.around "" ++ "<head></head>") := by
    decide +kernel
  have hhides : Veil.comment.Hides "<head>" := ⟨by simp, by decide⟩
  exact ⟨hwell, hhides, (inject_hidden .comment _ _ (.inr hdoctype) hwell).2⟩

/-- Not every text is hidden. A script whose text ends with the beginning of an end tag goes on
behind its own; the text of a doctype may open a comment that the text of the next one ends, and the
link goes into that; and where a document is not well-formed, the length of a comment tells which
repair is the better one. -/
theorem inject_exposed :
    (inject "<script>x</script><head>" "link" = "<script>x</script><head>link" ∧
      inject "<script>x<</script><head>" "link" = "link<script>x<</script><head>") ∧
    (inject "<!doctype <!-- ><!---->a>" "link" = "<!doctype <!-- ><!---->a>link" ∧
      inject "<!doctype <!-- ><!--><head>-->a>" "link" = "<!doctype <!-- ><!--><head>link-->a>") ∧
    inject "<!----><b>x<b>y<html" "link" = "link<!----><b>x<b>y<html" ∧
      inject ("<!--" ++ String.ofList (List.replicate 17 '\n') ++ "--><b>x<b>y<html") "link" =
        "<!--" ++ String.ofList (List.replicate 17 '\n') ++ "--><b>x<b>y<html<head>link</head>" :=
  ⟨by decide +kernel, by decide +kernel, by decide +kernel⟩

end IconSubset.Stylesheet
