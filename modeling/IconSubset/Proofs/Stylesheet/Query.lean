import IconSubset.Extraction.SourceFile
import IconSubset.Proofs.Stylesheet.IconList
import IconSubset.Proofs.Text.Splitting

/-!
# The query of an address

The query of an address has a parameter for the font, whose value is the name of the family and the
ranges of the axes, a parameter for the icons, whose value has commas between them, and a parameter
for how they are displayed. Nothing is escaped. Ranges without commas and ampersands end where they
seem to end, so the values are determined by the query, even when the names of icons have ampersands
in them (`queryOf_inj`), and so are the family and the ranges (`fontValue_inj`) and the icons, when
none has a comma in it (`entries_intercalate`). So the address determines what it asks for
(`address_determines`), and it depends on nothing but that (`address_collected`).

A reader who splits the query at ampersands and the list of icons at commas is not so lucky. The
three parameters and the icons come out exactly when no icon has an ampersand or a comma in its name
(`asksFor_address_iff`), and there are sources that name such icons (`not_asksFor_reserved`).
-/

namespace IconSubset.Stylesheet

/-- The ranges of the axes in the order in which an address has them. -/
def ranges (axes : FontAxes) : List String := [axes.opsz, axes.wght, axes.fill, axes.grad]

/-- The ranges have neither commas nor ampersands in them. -/
def Delimited (axes : FontAxes) : Prop :=
  ∀ range ∈ ranges axes, ',' ∉ range.toList ∧ '&' ∉ range.toList

instance (axes : FontAxes) : Decidable (Delimited axes) := inferInstanceAs (Decidable (∀ _ ∈ _, _))

/-- The value of the parameter for the font. -/
def fontValue (v : Variant) (axes : FontAxes) : String :=
  familyName v ++ ":opsz,wght,FILL,GRAD@" ++ String.intercalate "," (ranges axes)

/-- The query with these values of the parameters for the font and for the icons. -/
def queryOf (font icons : String) : String :=
  "family=" ++ font ++ "&icon_names=" ++ icons ++ "&display=block"

/-- The query of an address: what follows its first question mark. -/
def query (address : String) : String :=
  String.ofList ((address.toList.dropWhile (· ≠ '?')).drop 1)

/-- The entries of a list with commas between them; the empty text is the list without entries. -/
def entries (list : String) : List String := if list = "" then [] else Text.split ',' list

/-- An address asks for icons: its query is split at ampersands into the parameters for the font,
for the icons and for how they are displayed, and the value of the second is split at commas into
the icons. -/
def AsksFor (address : String) (icons : List String) : Prop :=
  ∃ font list, Text.split '&' (query address) =
      ["family=" ++ font, "icon_names=" ++ list, "display=block"] ∧ entries list = icons

/-! ## The form of an address -/

/-- An address is a fixed beginning and a query. -/
theorem address_eq (v : Variant) (axes : FontAxes) (names : List String) :
    address v axes names = endpoint ++ ("?" ++
      queryOf (fontValue v axes) (String.intercalate "," (iconList names))) := by
  have hmark : "?family=" = "?" ++ "family=" := by decide
  unfold address queryOf fontValue ranges
  rw [hmark]
  simp only [String.intercalate_cons_cons, String.intercalate_singleton, String.append_assoc]

/-- The query of an address is what stands behind the fixed beginning. -/
theorem query_address (v : Variant) (axes : FontAxes) (names : List String) :
    query (address v axes names) =
      queryOf (fontValue v axes) (String.intercalate "," (iconList names)) := by
  have hendpoint : endpoint.toList.all (· ≠ '?') := by decide
  rw [address_eq]
  generalize queryOf _ _ = rest
  unfold query
  rw [String.toList_append, String.toList_append,
    List.dropWhile_append_of_pos (List.all_eq_true.1 hendpoint)]
  exact String.ofList_toList

/-- A query determines the values of its parameters, when that for the font has no ampersand. -/
theorem queryOf_inj {font font' icons icons' : String} (h : '&' ∉ font.toList)
    (h' : '&' ∉ font'.toList) (heq : queryOf font icons = queryOf font' icons') :
    font = font' ∧ icons = icons' := by
  have hmark : "&icon_names=".toList = '&' :: "icon_names=".toList := by decide
  have hchars := congrArg String.toList heq
  unfold queryOf at hchars
  simp only [String.toList_append, List.append_cancel_right_eq] at hchars
  rw [hmark, List.append_assoc, List.append_assoc, List.append_assoc, List.append_assoc,
    List.cons_append, List.cons_append] at hchars
  obtain ⟨hfont, hicons⟩ := Text.append_separator_inj h h' (List.append_cancel_left hchars)
  exact ⟨String.toList_inj.1 hfont, String.toList_inj.1 (List.append_cancel_left hicons)⟩

/-- A text is split at ampersands into the three parameters when it is the query with their values
and these have no ampersands. -/
theorem split_eq_parameters_iff {text font list : String} :
    Text.split '&' text = ["family=" ++ font, "icon_names=" ++ list, "display=block"] ↔
      text = queryOf font list ∧ '&' ∉ font.toList ∧ '&' ∉ list.toList := by
  have hquery : String.intercalate (String.singleton '&')
      ["family=" ++ font, "icon_names=" ++ list, "display=block"] = queryOf font list := by
    have hicons : "&icon_names=" = String.singleton '&' ++ "icon_names=" := by decide
    have hdisplay : "&display=block" = String.singleton '&' ++ "display=block" := by decide
    unfold queryOf
    rw [hicons, hdisplay]
    simp only [String.intercalate_cons_cons, String.intercalate_singleton, String.append_assoc]
  have hfamily : '&' ∉ "family=".toList := by decide
  have hnames : '&' ∉ "icon_names=".toList := by decide
  have hblock : '&' ∉ "display=block".toList := by decide
  rw [Text.split_eq_iff, hquery]
  simp only [List.forall_mem_cons, String.toList_append, List.mem_append, not_or]
  constructor
  · rintro ⟨-, ⟨hfont, hlist, -⟩, rfl⟩
    exact ⟨rfl, hfont.2, hlist.2⟩
  · rintro ⟨rfl, hfont, hlist⟩
    exact ⟨List.cons_ne_nil _ _, ⟨⟨hfamily, hfont⟩, ⟨hnames, hlist⟩, hblock, nofun⟩, rfl⟩

/-! ## The font -/

/-- The value for the font has no ampersand in it when the ranges have none. -/
theorem not_mem_fontValue (v : Variant) {axes : FontAxes} (h : Delimited axes) :
    '&' ∉ (fontValue v axes).toList := by
  have hfamily : '&' ∉ (familyName v).toList := by cases v <;> decide
  have hranges : '&' ∉ (String.intercalate "," (ranges axes)).toList := by
    rw [Text.mem_intercalate_iff (by decide)]
    exact fun ⟨range, hrange, hmem⟩ => (h range hrange).2 hmem
  unfold fontValue
  rw [String.toList_append, String.toList_append, List.mem_append, List.mem_append, not_or, not_or]
  exact ⟨⟨hfamily, by decide⟩, hranges⟩

/-- Ranges that are put together with commas are determined. -/
theorem ranges_inj {axes axes' : FontAxes} (h : Delimited axes) (h' : Delimited axes')
    (heq : String.intercalate "," (ranges axes) = String.intercalate "," (ranges axes')) :
    axes = axes' := by
  have hsplit {axes : FontAxes} (h : Delimited axes) :
      Text.split ',' (String.intercalate "," (ranges axes)) = ranges axes :=
    Text.split_eq_iff.2 ⟨List.cons_ne_nil _ _, fun range hrange => (h range hrange).1, rfl⟩
  have hranges : ranges axes = ranges axes' := by rw [← hsplit h, heq, hsplit h']
  obtain ⟨opsz, wght, fill, grad⟩ := axes
  obtain ⟨opsz', wght', fill', grad'⟩ := axes'
  simpa [ranges] using hranges

/-- The value for the font determines the style and the ranges. -/
theorem fontValue_inj {v v' : Variant} {axes axes' : FontAxes} (h : Delimited axes)
    (h' : Delimited axes') (heq : fontValue v axes = fontValue v' axes') :
    v = v' ∧ axes = axes' := by
  have hmark : ":opsz,wght,FILL,GRAD@".toList = ':' :: "opsz,wght,FILL,GRAD@".toList := by decide
  have hfamily : ∀ v, ':' ∉ (familyName v).toList := by
    intro v
    cases v <;> decide
  have hchars := congrArg String.toList heq
  unfold fontValue at hchars
  simp only [String.toList_append, List.append_assoc] at hchars
  rw [hmark, List.cons_append, List.cons_append] at hchars
  -- The family goes up to the colon.
  obtain ⟨hname, hranges⟩ := Text.append_separator_inj (hfamily v) (hfamily v') hchars
  refine ⟨?_, ranges_inj h h' (String.toList_inj.1 (List.append_cancel_left hranges))⟩
  revert hname
  cases v <;> cases v' <;> decide

/-! ## The list of icons -/

/-- The entries of texts that are put together with commas are the texts, when none is empty and
none has a comma in it. -/
theorem entries_intercalate {names : List String}
    (h : ∀ name ∈ names, name ≠ "" ∧ ',' ∉ name.toList) :
    entries (String.intercalate "," names) = names := by
  cases hnames : names with
  | nil => rfl
  | cons first rest =>
    rw [← hnames]
    have hsplit : Text.split ',' (String.intercalate "," names) = names :=
      Text.split_eq_iff.2 ⟨hnames ▸ List.cons_ne_nil _ _, fun name hname => (h name hname).2, rfl⟩
    unfold entries
    rw [if_neg, hsplit]
    -- Split, the empty text has an empty part.
    intro hempty
    rw [hempty] at hsplit
    exact (h "" (hsplit ▸ List.mem_singleton_self _)).1 rfl

/-- No entry has a comma in it. -/
theorem not_mem_of_mem_entries {list name : String} (h : name ∈ entries list) :
    ',' ∉ name.toList := by
  unfold entries at h
  split_ifs at h
  · exact absurd h List.not_mem_nil
  · exact (Text.split_eq_iff.1 rfl).2.1 name h

/-! ## What an address determines -/

/-- The icons that an address lists are not empty, and have no commas in them when the given names
have none. -/
theorem of_mem_iconList {names : List String} (h : ∀ name ∈ names, ',' ∉ name.toList) :
    ∀ name ∈ iconList names, name ≠ "" ∧ ',' ∉ name.toList := by
  intro name hname
  obtain ⟨⟨given, hgiven, rfl⟩, hne⟩ := mem_iconList.1 hname
  exact ⟨hne, fun hcomma => h given hgiven (Text.mem_of_mem_trim hcomma)⟩

/-- An address determines what it asks for: addresses whose ranges have neither commas nor
ampersands in them, and whose icons have no commas, are equal only for the same style, the same
ranges and the same set of icons. -/
theorem address_determines {v v' : Variant} {axes axes' : FontAxes} {names names' : List String}
    (haxes : Delimited axes) (haxes' : Delimited axes') (hnames : ∀ name ∈ names, ',' ∉ name.toList)
    (hnames' : ∀ name ∈ names', ',' ∉ name.toList)
    (h : address v axes names = address v' axes' names') :
    v = v' ∧ axes = axes' ∧ IconSet.ofList names = IconSet.ofList names' := by
  have hquery := query_address v axes names
  rw [h, query_address] at hquery
  obtain ⟨hfont, hlist⟩ :=
    queryOf_inj (not_mem_fontValue v' haxes') (not_mem_fontValue v haxes) hquery
  obtain ⟨hv, hranges⟩ := fontValue_inj haxes' haxes hfont
  have hicons : iconList names = iconList names' := by
    rw [← entries_intercalate (of_mem_iconList hnames), ← hlist,
      entries_intercalate (of_mem_iconList hnames')]
  rw [iconList_eq, iconList_eq] at hicons
  exact ⟨hv.symm, hranges.symm, IconSet.ext hicons⟩

/-- Ranges of which some are empty. -/
def sparseAxes : FontAxes := { opsz := "", wght := "400", grad := "" }

/-- Names of icons, one of which looks like the end of an address. -/
def tidyNames : List String := ["a&display=block", "menu"]

/-- The same names with blanks and repetitions, in another order. -/
def untidyNames : List String := [" menu", "a&display=block\n", " ", "menu"]

/-- The address is the same for both, and so is the set. -/
theorem address_determines_untidy :
    Delimited sparseAxes ∧ (∀ name ∈ tidyNames, ',' ∉ name.toList) ∧
      (∀ name ∈ untidyNames, ',' ∉ name.toList) ∧
      address .sharp sparseAxes tidyNames = address .sharp sparseAxes untidyNames ∧
      IconSet.ofList tidyNames = IconSet.ofList untidyNames := by
  have haxes : Delimited sparseAxes := by decide
  have htidy : ∀ name ∈ tidyNames, ',' ∉ name.toList := by decide
  have huntidy : ∀ name ∈ untidyNames, ',' ∉ name.toList := by decide
  have heq : address .sharp sparseAxes tidyNames = address .sharp sparseAxes untidyNames := by
    rw [address_eq, address_eq, iconList_eq, iconList_eq]
    decide
  exact ⟨haxes, htidy, huntidy, heq, (address_determines haxes haxes htidy huntidy heq).2.2⟩

/-! ## What an address depends on -/

/-- The names, trimmed, without the blank ones. -/
def icons (names : List String) : Set String :=
  { icon | icon ≠ "" ∧ ∃ name ∈ names, Text.trim name = icon }

/-- What is collected from names are their icons. -/
theorem mem_ofList_iff {names : List String} {icon : String} :
    icon ∈ IconSet.ofList names ↔ icon ∈ icons names := by
  rw [IconSet.mem_ofList, and_comm]
  refine and_congr_right fun _ => exists_congr fun name => and_congr_right fun _ => ?_
  exact eq_comm

/-- An address of names is the address of the set that is collected from them, and that lists the
names of the set as they are, in their order. So names with the same icons, in whatever order,
however often and with whatever blanks, have the same address. -/
theorem address_collected (v : Variant) (axes : FontAxes) (names : List String) :
    address v axes names = address v axes (IconSet.ofList names).toList ∧
    query (address v axes (IconSet.ofList names).toList) =
      queryOf (fontValue v axes) (String.intercalate "," (IconSet.ofList names).toList) ∧
    ∀ others, icons others = icons names → address v axes others = address v axes names := by
  have hlist : iconList (IconSet.ofList names).toList = (IconSet.ofList names).toList := by
    refine iconList_toList fun name hname => ?_
    obtain ⟨⟨given, -, rfl⟩, hne⟩ := IconSet.mem_ofList.1 hname
    exact Text.trimmed_trim hne
  refine ⟨?_, ?_, fun others hothers => ?_⟩
  · rw [address_eq, address_eq, hlist, iconList_eq]
  · rw [query_address, hlist]
  · have hset : IconSet.ofList others = IconSet.ofList names :=
      IconSet.ext_mem fun icon => by rw [mem_ofList_iff, mem_ofList_iff, hothers]
    rw [address_eq, address_eq, iconList_eq, iconList_eq, hset]

/-- The untidy names have the icons of the tidy ones, and so their address. -/
theorem address_collected_untidy :
    icons untidyNames = icons tidyNames ∧
      address .outlined sparseAxes untidyNames = address .outlined sparseAxes tidyNames := by
  have hset : IconSet.ofList untidyNames = IconSet.ofList tidyNames := by decide
  have hicons : icons untidyNames = icons tidyNames := by
    ext icon
    rw [← mem_ofList_iff, ← mem_ofList_iff, hset]
  exact ⟨hicons, (address_collected .outlined sparseAxes tidyNames).2.2 untidyNames hicons⟩

/-! ## What a reader of an address finds -/

/-- An address asks for the icons of a set of trimmed names exactly when none of these has an
ampersand or a comma in it. -/
theorem asksFor_address_iff {icons : IconSet} (htrimmed : ∀ name ∈ icons, Text.Trimmed name)
    (v : Variant) {axes : FontAxes} (haxes : Delimited axes) :
    AsksFor (address v axes icons.toList) icons.toList ↔
      ∀ name ∈ icons, '&' ∉ name.toList ∧ ',' ∉ name.toList := by
  have hampersand : '&' ∈ (String.intercalate "," icons.toList).toList ↔
      ∃ name ∈ icons.toList, '&' ∈ name.toList := Text.mem_intercalate_iff (by decide)
  unfold AsksFor
  simp only [query_address, iconList_toList htrimmed, split_eq_parameters_iff]
  constructor
  · rintro ⟨font, list, ⟨hquery, hfont, hlist⟩, hentries⟩ name hname
    obtain ⟨-, rfl⟩ := queryOf_inj (not_mem_fontValue v haxes) hfont hquery
    refine ⟨fun hmem => hlist (hampersand.2 ⟨name, hname, hmem⟩), ?_⟩
    have hentry : name ∈ icons.toList := hname
    rw [← hentries] at hentry
    exact not_mem_of_mem_entries hentry
  · intro hnames
    have hlist : '&' ∉ (String.intercalate "," icons.toList).toList := fun hmem =>
      have ⟨name, hname, hin⟩ := hampersand.1 hmem
      (hnames name hname).1 hin
    have hentries : entries (String.intercalate "," icons.toList) = icons.toList :=
      entries_intercalate fun name hname => ⟨(htrimmed name hname).ne_empty, (hnames name hname).2⟩
    exact ⟨_, _, ⟨rfl, not_mem_fontValue v haxes, hlist⟩, hentries⟩

/-- The icons of a source have trimmed names. -/
theorem trimmed_of_extract {e : Extractor} {source : String} {icons : IconSet}
    (h : e.extract source = .ok icons) : ∀ name ∈ icons, Text.Trimmed name := by
  intro name hname
  unfold Extractor.extract at h
  split at h
  · obtain rfl := Except.ok.inj h
    unfold Extraction.scanElements at hname
    obtain hempty | ⟨⟨text, -, rfl⟩, hne⟩ := IconSet.mem_insertMany.1 hname
    · exact absurd hempty IconSet.not_mem_empty
    · exact Text.trimmed_trim hne
  · cases h

/-- Whatever the style, the address with the ranges that are not set otherwise asks for the icons of
a source exactly when none of their names has an ampersand or a comma in it. -/
theorem asksFor_extract_iff {e : Extractor} {source : String} {icons : IconSet}
    (h : e.extract source = .ok icons) (v : Variant) :
    AsksFor (address v {} icons.toList) icons.toList ↔
      ∀ name ∈ icons, '&' ∉ name.toList ∧ ',' ∉ name.toList :=
  asksFor_address_iff (trimmed_of_extract h) v (by decide)

/-- An address asks for icons whose names have other marks of a query in them. -/
theorem asksFor_extract_marks :
    (⟨.rounded, []⟩ : Extractor).extract
      "const a = <i className=\"material-symbols-rounded\">x?y=1\x7b'#menu'\x7d</i>;" =
        .ok (.ofList ["x?y=1", "#menu"]) ∧
    AsksFor (address .sharp {} (IconSet.ofList ["x?y=1", "#menu"]).toList)
      (IconSet.ofList ["x?y=1", "#menu"]).toList := by
  have hextract : (⟨.rounded, []⟩ : Extractor).extract
      "const a = <i className=\"material-symbols-rounded\">x?y=1\x7b'#menu'\x7d</i>;" =
        .ok (.ofList ["x?y=1", "#menu"]) := by decide +kernel
  exact ⟨hextract, (asksFor_extract_iff hextract .sharp).2 (by decide)⟩

/-- The address of a source's icons does not ask for them when an ampersand or a comma stands in the
name of one. -/
theorem not_asksFor_reserved :
    ((⟨.rounded, []⟩ : Extractor).extract
      "const a = <i className=\"material-symbols-rounded\">arrow_forward&amp;</i>;" =
        .ok (.ofList ["arrow_forward&"]) ∧
      ¬AsksFor (address .rounded {} (IconSet.ofList ["arrow_forward&"]).toList)
        (IconSet.ofList ["arrow_forward&"]).toList) ∧
    ((⟨.rounded, []⟩ : Extractor).extract
      "const a = <i className=\"material-symbols-rounded\">home, menu</i>;" =
        .ok (.ofList ["home, menu"]) ∧
      ¬AsksFor (address .rounded {} (IconSet.ofList ["home, menu"]).toList)
        (IconSet.ofList ["home, menu"]).toList) := by
  have hampersand : (⟨.rounded, []⟩ : Extractor).extract
      "const a = <i className=\"material-symbols-rounded\">arrow_forward&amp;</i>;" =
        .ok (.ofList ["arrow_forward&"]) := by decide +kernel
  have hcomma : (⟨.rounded, []⟩ : Extractor).extract
      "const a = <i className=\"material-symbols-rounded\">home, menu</i>;" =
        .ok (.ofList ["home, menu"]) := by decide +kernel
  refine ⟨⟨hampersand, fun h => ?_⟩, ⟨hcomma, fun h => ?_⟩⟩
  · have hnames := (asksFor_address_iff (trimmed_of_extract hampersand) .rounded (by decide)).1 h
    exact (hnames "arrow_forward&" List.mem_cons_self).1 (by decide)
  · have hnames := (asksFor_address_iff (trimmed_of_extract hcomma) .rounded (by decide)).1 h
    exact (hnames "home, menu" List.mem_cons_self).2 (by decide)

end IconSubset.Stylesheet
