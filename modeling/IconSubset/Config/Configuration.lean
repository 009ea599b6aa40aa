import IconSubset.Settings

/-!
# What has been configured

A configuration may leave open what a project asks for. The style of the font and the directories
have no defaults, so they must be given in the end, and the attributes that hold icons must have
names.
-/

namespace IconSubset

/-- What has been configured. -/
structure Configuration where
  /-- The style of the font. -/
  variant : Option Variant := none
  /-- The directories whose source files are scanned. -/
  paths : Option (List ByteString) := none
  /-- Further files to scan. -/
  files : List ByteString := []
  /-- Icons to keep whether a source names them or not. -/
  safelist : List String := []
  /-- The attributes that hold icon names. -/
  iconProps : List String := []
  /-- The ranges requested from the font provider. -/
  axes : FontAxes := {}
deriving DecidableEq, Repr, Inhabited

/-- Why a configuration does not settle what a project asks for. -/
inductive ConfigurationGap where
  | noVariant
  | noPaths
  /-- The attribute at this index has a blank name. -/
  | blankProp (index : Nat)
deriving DecidableEq, Repr, Inhabited

/-- What the user is told. -/
def ConfigurationGap.message : ConfigurationGap → String
  | noVariant => "Missing required configuration option 'variant'"
  | noPaths => "Missing required configuration option 'paths'"
  | blankProp index =>
    "Invalid configuration value for 'icon_props[" ++ toString index
      ++ "]': prop names must not be empty"

/-- The settings of a project, once everything is there. -/
def Configuration.settings (c : Configuration) : Except ConfigurationGap Settings :=
  match c.variant with
  | none => .error .noVariant
  | some variant =>
    match c.paths with
    | none => .error .noPaths
    | some paths =>
      match c.iconProps.findIdx? Text.isBlankText with
      | some index => .error (.blankProp index)
      | none =>
        .ok { variant, paths, files := c.files, safelist := c.safelist, iconProps := c.iconProps,
              axes := c.axes }

end IconSubset
