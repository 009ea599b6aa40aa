import IconSubset.Proofs.Html.Reference
import IconSubset.Proofs.Stylesheet.Placement
import IconSubset.Stylesheet.Address
import Mathlib.Data.List.TakeDrop

/-!
# What a link adds to a document

A link goes into a document in one piece, and nothing else of the document changes. The address in
it is escaped, so that a reader of the document who decodes the value of its attribute gets the
address back (`linked_inject`), and so that no address ends the attribute or the tag in which it
stands (`linkElement_value`).
-/

namespace IconSubset.Stylesheet

open Html (encode escapes decode_encode ne_of_mem_encode exists_reference)

/-- An ampersand in an escaped text starts one of four references. -/
theorem reference_of_encode {s : String} {before after : List Char}
    (h : (encode s).toList = before ++ '&' :: after) :
    ∃ reference ∈ ["&amp;", "&lt;", "&gt;", "&quot;"], reference.toList <+: '&' :: after := by
  unfold encode at h
  rw [String.toList_ofList] at h
  obtain ⟨e, he, hprefix⟩ := exists_reference h
  have hreferences : ∀ e ∈ escapes, ∃ reference ∈ ["&amp;", "&lt;", "&gt;", "&quot;"],
      reference.toList = '&' :: (e.1.toList ++ [';']) := by decide
  obtain ⟨reference, hmem, htext⟩ := hreferences e he
  refine ⟨reference, hmem, ?_⟩
  rw [htext]
  exact (List.prefix_cons_inj '&').2 hprefix

/-- Different addresses have different links. -/
theorem linkElement_inj {url other : String} (h : linkElement url = linkElement other) :
    url = other := by
  have hchars := congrArg String.toList h
  unfold linkElement at hchars
  simp only [String.toList_append, List.append_cancel_right_eq, List.append_cancel_left_eq,
    String.toList_inj] at hchars
  rw [← decode_encode url, hchars, decode_encode]

/-- Whatever follows a text without a character, the first such character is the one behind it. -/
theorem span_append_cons {c : Char} {text : List Char} (h : c ∉ text) (rest : List Char) :
    (text ++ c :: rest).span (· ≠ c) = (text, c :: rest) := by
  have hall : ∀ d ∈ text, decide (d ≠ c) = true := fun d hd =>
    decide_eq_true fun hdc => h (hdc ▸ hd)
  rw [List.span_eq_takeWhile_dropWhile, List.takeWhile_append_of_pos hall,
    List.dropWhile_append_of_pos hall]
  simp

/-- A link is a fixed beginning, a value, and a fixed end. The value has neither a quotation mark
nor angle brackets in it, and ampersands only where one of four references starts; decoding its
references gives the address. So whatever the address and whatever follows, the quotation mark that
ends the attribute is the first one behind the beginning, the angle bracket that ends the tag is the
first one in the link, and different addresses have different links. -/
theorem linkElement_value (url : String) : ∃ value,
    linkElement url = "<link rel=\"stylesheet\" href=\"" ++ value ++ "\">" ∧
    (∀ c ∈ value.toList, c ≠ '"' ∧ c ≠ '<' ∧ c ≠ '>') ∧
    (∀ before after, value.toList = before ++ '&' :: after →
      ∃ reference ∈ ["&amp;", "&lt;", "&gt;", "&quot;"], reference.toList <+: '&' :: after) ∧
    Html.decode value = url ∧
    (∀ rest, (value.toList ++ '"' :: rest).span (· ≠ '"') = (value.toList, '"' :: rest)) ∧
    (∀ rest, ∃ inner, (linkElement url).toList = inner ++ ['>'] ∧
      ((linkElement url).toList ++ rest).span (· ≠ '>') = (inner, '>' :: rest)) ∧
    ∀ other, linkElement other = linkElement url → other = url := by
  have hquote : '"' ∉ (encode url).toList := fun h => (ne_of_mem_encode h).1 rfl
  have hinner :
      '>' ∉ "<link rel=\"stylesheet\" href=\"".toList ++ (encode url).toList ++ ['"'] := by
    rw [List.mem_append, List.mem_append, not_or, not_or]
    exact ⟨⟨by decide, fun h => (ne_of_mem_encode h).2.2 rfl⟩, by decide⟩
  have hlink : (linkElement url).toList =
      "<link rel=\"stylesheet\" href=\"".toList ++ (encode url).toList ++ ['"'] ++ ['>'] := by
    unfold linkElement
    simp only [String.toList_append]
    simp
  refine ⟨encode url, rfl, fun c => ne_of_mem_encode, fun before after => reference_of_encode,
    decode_encode url, span_append_cons hquote, fun rest => ⟨_, hlink, ?_⟩,
    fun other => linkElement_inj⟩
  rw [hlink, List.append_assoc]
  exact span_append_cons hinner rest

/-- The link to an address that ends its attribute and its tag. -/
example : linkElement "a\"><b>&amp;" =
    "<link rel=\"stylesheet\" href=\"a&quot;&gt;&lt;b&gt;&amp;amp;\">" := by
  decide

end IconSubset.Stylesheet
