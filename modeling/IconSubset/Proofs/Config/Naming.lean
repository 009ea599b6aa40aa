import IconSubset.Proofs.Config.Typing
import Mathlib

/-!
# The names of environment variables

What a variable sets does not depend on the case of its name, so variables of different names can
set the same. For each option one name in lower case is enough to tell variables that set it.
-/

namespace IconSubset.Config.Environment

/-- What holds of the characters of ASCII, and of those that are in lower case already. -/
theorem of_ascii {p : Char → Bool} (hascii : ∀ n : Fin 128, p (Char.ofNat n) = true)
    (hlower : ∀ c : Char, c.toLower = c → p c = true) (c : Char) : p c = true := by
  by_cases hc : c.toNat < 128
  · have h := hascii ⟨c.toNat, hc⟩
    rwa [Char.ofNat_toNat] at h
  · -- only capitals of ASCII change
    refine hlower c (dif_neg fun hrange => ?_)
    have hle : c.toNat ≤ 90 := UInt32.le_iff_toNat_le.1 hrange.2
    omega

/-- Lower case stays as it is. -/
theorem toLower_toLower (c : Char) : c.toLower.toLower = c.toLower :=
  eq_of_beq (of_ascii (p := fun c => c.toLower.toLower == c.toLower) (by decide)
    (fun c hc => by rw [hc, hc, beq_self_eq_true]) c)

/-- White space has no case. -/
theorem isBlank_toLower (c : Char) : Text.isBlank c.toLower = Text.isBlank c :=
  eq_of_beq (of_ascii (p := fun c => Text.isBlank c.toLower == Text.isBlank c) (by decide)
    (fun c hc => by rw [hc, beq_self_eq_true]) c)

/-- The marks that split a name have no case. -/
theorem toLower_eq_mark {mark : Char} (hmark : mark = '_' ∨ mark = '.') (c : Char) :
    c.toLower = mark ↔ c = mark := by
  have hboth := of_ascii
    (p := fun c => ((c.toLower == '_') == (c == '_')) && ((c.toLower == '.') == (c == '.')))
    (by decide) (fun c hc => by rw [hc, beq_self_eq_true, beq_self_eq_true]; rfl) c
  rw [Bool.and_eq_true, beq_iff_eq, beq_iff_eq] at hboth
  obtain rfl | rfl := hmark
  · rw [← beq_iff_eq, ← beq_iff_eq (b := '_'), hboth.1]
  · rw [← beq_iff_eq, ← beq_iff_eq (b := '.'), hboth.2]

/-- Trimming does not look at case. -/
theorem trimChars_map_toLower (cs : List Char) :
    Text.trimChars (cs.map Char.toLower) = (Text.trimChars cs).map Char.toLower := by
  have hblank : Text.isBlank ∘ Char.toLower = Text.isBlank := funext isBlank_toLower
  simp only [Text.trimChars, Text.trimEnd, List.dropWhile_map, ← List.map_reverse, hblank]

/-- A prefix is taken off whatever its case. -/
theorem afterPrefix_map_toLower (start cs : List Char) :
    afterPrefix start (cs.map Char.toLower) = (afterPrefix start cs).map (·.map Char.toLower) := by
  fun_induction afterPrefix start cs with
  | case1 => rfl
  | case2 p ps c cs heq ih => rw [List.map_cons, afterPrefix, toLower_toLower, if_pos heq, ih]
  | case3 p ps c cs hne => rw [List.map_cons, afterPrefix, toLower_toLower, if_neg hne]; rfl
  | case4 => rfl

/-- A name in lower case has the parts of the name in lower case. -/
theorem splitName_map_toLower (cs : List Char) :
    splitName (cs.map Char.toLower) = (splitName cs).map (·.map Char.toLower) := by
  fun_induction splitName cs with
  | case1 => rfl
  | case2 cs ih =>
    show [] :: splitName (cs.map Char.toLower) = _
    rw [ih]
    rfl
  | case3 cs ih =>
    show [] :: splitName (cs.map Char.toLower) = _
    rw [ih]
    rfl
  | case4 c cs hpair hdot hnil ih => exact absurd hnil (splitName_ne_nil cs)
  | case5 c cs hpair hdot part parts hparts ih =>
    -- neither the name nor the name in lower case begins with a mark
    have hpair' : ∀ rest, c.toLower = '_' → cs.map Char.toLower = '_' :: rest → False := by
      intro rest hc hrest
      obtain ⟨d, ds, rfl, hd, -⟩ := List.map_eq_cons_iff.1 hrest
      rw [(toLower_eq_mark (.inl rfl) d).1 hd] at hpair
      exact hpair ds ((toLower_eq_mark (.inl rfl) c).1 hc) rfl
    have hdot' : c.toLower = '.' → False := fun hc => hdot ((toLower_eq_mark (.inr rfl) c).1 hc)
    rw [List.map_cons, splitName.eq_4 _ _ hpair' hdot', ih, hparts]
    rfl

/-- To write in lower case what is in lower case changes nothing. -/
theorem lowerAscii_map_toLower (part : List Char) :
    Text.lowerAscii (String.ofList (part.map Char.toLower)) =
      Text.lowerAscii (String.ofList part) := by
  have hmap : (part.map Char.toLower).map Char.toLower = part.map Char.toLower := by
    rw [List.map_map]
    exact List.map_congr_left fun c _ => toLower_toLower c
  rw [Text.lowerAscii, Text.lowerAscii, String.toList_ofList, String.toList_ofList, hmap]

/-- The case of the name of a variable does not matter. -/
theorem settingNames?_lowerAscii (name : String) :
    settingNames? (Text.lowerAscii name) = settingNames? name := by
  have htext : (Text.lowerAscii name).toList = name.toList.map Char.toLower := String.toList_ofList
  have hempty : ∀ parts : List (List Char),
      (parts.map (·.map Char.toLower)).any (· == []) = parts.any (· == []) := by
    intro parts
    rw [List.any_map]
    congr 1
    funext part
    cases part <;> rfl
  unfold settingNames?
  rw [htext, trimChars_map_toLower, afterPrefix_map_toLower, Option.bind_map]
  congr 1
  funext rest
  simp only [Function.comp_def, splitName_map_toLower, hempty, List.map_map, lowerAscii_map_toLower]

/-- The name of an option after the marker leads to the option. -/
theorem settingNames?_key (key : Key) :
    settingNames? ("glyphset_" ++ key.name) = some [key.name] := by
  cases key <;> cbv

/-- A variable sets an option when its name in lower case is that of the option after the marker. -/
theorem settingOf?_of_lowerAscii (key : Key) (var : String × String)
    (h : Text.lowerAscii var.1 = "glyphset_" ++ key.name) :
    settingOf? key.name var = some (Setting.of .environment (Variable.read var.2)) := by
  rw [settingOf?, ← settingNames?_lowerAscii, h, settingNames?_key]
  exact if_pos rfl

end IconSubset.Config.Environment
