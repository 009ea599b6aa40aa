import IconSubset.Proofs.Config.Substitution
import IconSubset.Proofs.Config.Typing

/-!
# Variables that set no option

The variables of the environment that begin with the marker make settings, whatever the rest of
their names is. Those that lead to no option are never looked at: a configuration is read from what
stands under the names of its options (`readConfiguration_eq`), and under these names nothing of
such a variable arrives (`lookup_settings_without`), even though it lies in the same layer as the
others.
-/

namespace IconSubset.Config

/-- Under a name, an overlay depends only on what stands under that name. -/
theorem lookup_overlay_congr {name : String} {earlier earlier' fields fields' :
    List (String × Setting)} (h : InOrder fields) (h' : InOrder fields')
    (hearlier : lookup name earlier = lookup name earlier')
    (hfields : lookup name fields = lookup name fields') :
    lookup name (overlay earlier fields) = lookup name (overlay earlier' fields') := by
  rw [lookup_overlay name earlier h, lookup_overlay name earlier' h', hearlier, hfields]

/-- A configuration is read from what stands under the names of its options. -/
theorem readConfiguration_eq {fields fields' : List (String × Setting)}
    (h : ∀ key : Key, lookup key.name fields = lookup key.name fields') :
    readConfiguration readVariant fields = readConfiguration readVariant fields' :=
  readConfiguration_eq_of_surface (fun key => by rw [h key]) (h .variant)

namespace Environment

/-- A variable that sets no option, whatever its value. -/
def SetsNothing (name : String) : Prop :=
  ∀ (key : Key) (value : String), settingOf? key.name (name, value) = none

/-- A variable sets no option when its name leads to none. -/
theorem setsNothing_of_settingNames? {name first : String} {inner : List String}
    (hnames : settingNames? name = some (first :: inner)) (h : ∀ key : Key, first ≠ key.name) :
    SetsNothing name := by
  intro key value
  rw [settingOf?, hnames]
  exact if_neg (h key)

/-- A variable that sets no option leaves all options as they are. -/
theorem lookup_settings_without {name : String} (h : SetsNothing name) (key : Key)
    (environment : Environment) :
    lookup key.name (environment.without name).settings = lookup key.name environment.settings := by
  -- The settings are put together variable by variable; the ones on the left lack some others.
  have hrun : ∀ start start' : List (String × Setting),
      lookup key.name start = lookup key.name start' →
      lookup key.name ((environment.without name).foldl
          (fun earlier var => overlay earlier (settingsOfVariable var.1 var.2)) start) =
        lookup key.name (environment.foldl
          (fun earlier var => overlay earlier (settingsOfVariable var.1 var.2)) start') := by
    induction environment with
    | nil => exact fun start start' hstart => hstart
    | cons var rest ih =>
      intro start start' hstart
      rw [without, List.filter_cons, List.foldl_cons]
      have hvar := inOrder_settingsOfVariable var
      by_cases hname : var.1 = name
      · rw [if_neg (by simp [hname])]
        refine ih _ _ ?_
        have hnone : settingOf? key.name var = none := by
          obtain ⟨n, v⟩ := var
          obtain rfl : n = name := hname
          exact h key v
        rw [lookup_overlay _ _ hvar, lookup_settingsOfVariable, hnone, hstart]
        rfl
      · rw [if_pos (by simp [hname]), List.foldl_cons]
        exact ih _ _ (lookup_overlay_congr hvar hvar hstart rfl)
  exact hrun [] [] rfl

end Environment

/-- A configuration does not depend on a variable that sets no option. -/
theorem loadUnder_congr_without {name : String} (h : Environment.SetsNothing name) (tree : Entry)
    {environment environment' : Environment}
    (hsame : environment.without name = environment'.without name)
    (configFile : Option ByteString) {direct : Except LayerError (List (String × Setting))}
    (horder : ∀ fields, direct = .ok fields → InOrder fields) :
    loadUnder tree environment configFile direct =
      loadUnder tree environment' configFile direct := by
  have hoptions : ∀ key : Key,
      lookup key.name environment.settings = lookup key.name environment'.settings := by
    intro key
    rw [← Environment.lookup_settings_without h key environment, hsame,
      Environment.lookup_settings_without h]
  unfold loadUnder layers
  match fileLayer tree configFile, direct, horder with
  | .error _, .error _, _ | .error _, .ok _, _ | .ok _, .error _, _ => rfl
  | .ok file, .ok fields, horder =>
    -- The layers differ under names that are no options, and an overlay keeps names apart.
    have hread : readConfiguration readVariant
          (overlay (overlay file environment.settings) fields) =
        readConfiguration readVariant
          (overlay (overlay file environment'.settings) fields) := by
      refine readConfiguration_eq fun key => ?_
      have hdirect := horder fields rfl
      refine lookup_overlay_congr hdirect hdirect ?_ rfl
      exact lookup_overlay_congr (Environment.inOrder_settings _) (Environment.inOrder_settings _)
        rfl (hoptions key)
    exact congrArg (Except.mapError fun error => [LayerError.unfit error]) hread

end IconSubset.Config
