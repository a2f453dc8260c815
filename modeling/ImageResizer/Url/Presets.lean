import ImageResizer.Foundation.Folding
import ImageResizer.Url.Options

/-!
# Presets and the allowlist

The `PRESETS` and `ALLOWED_PROCESSING_OPTIONS` settings (`modules/url/presets.rs`).  A
registry read from its setting only holds segments a request could carry one by one: none
is empty, none spans a `/`, and none invokes a preset again.
-/

namespace ImageResizer

open Text

namespace Url

/-- The code that invokes presets. -/
def presetCode : List Char := "pr".toList

structure PresetRegistry where
  presets : List (List Char × List (List Char))
  deriving DecidableEq

namespace PresetRegistry

def empty : PresetRegistry := ⟨[]⟩

def get (registry : PresetRegistry) (name : List Char) : Option (List (List Char)) :=
  registry.presets.lookup name

/-- The preset every request starts from. -/
def defaultPreset (registry : PresetRegistry) : Option (List (List Char)) :=
  registry.get "default".toList

def insert (registry : PresetRegistry) (name : List Char) (segments : List (List Char)) :
    PresetRegistry :=
  ⟨(name, segments) :: registry.presets⟩

/-- One entry of the setting; a blank one is skipped. -/
def addEntry (registry : PresetRegistry) (raw : List Char) : Except Message PresetRegistry :=
  let entry := trim raw
  if entry = [] then .ok registry
  else
    match splitOnce '=' entry with
    | none =>
        .error [.text "preset entry ", .debug entry,
          .text " is missing '=' (expected name=opt1:val/opt2:val)"]
    | some (rawName, options) =>
        let name := trim rawName
        let segments := ((options.splitOn '/').map trim).filter (· ≠ [])
        if name = [] then .error [.text "preset entry ", .debug entry, .text " has an empty name"]
        else if segments = [] then
          .error [.text "preset ", .debug name,
            .text " has no options (expected at least one opt1:val segment after '=')"]
        else
          match segments.find? fun segment => code segment = presetCode with
          | some bad =>
              .error [.text "preset ", .debug name, .text " contains a pr: segment (", .debug bad,
                .text ") - presets cannot reference other presets"]
          | none =>
              if (registry.get name).isSome then
                .error [.text "duplicate preset name ", .debug name]
              else .ok (registry.insert name segments)

/-- `PresetRegistry::parse`. -/
def parse (raw : List Char) : Except Message PresetRegistry :=
  (raw.splitOn ',').foldlM addEntry empty

/-- What every preset's segments are. -/
def Splices (registry : PresetRegistry) : Prop :=
  ∀ name segments, registry.get name = some segments →
    segments ≠ [] ∧ ∀ segment ∈ segments, '/' ∉ segment ∧ code segment ≠ presetCode

theorem splices_empty : empty.Splices := fun _ _ found => by cases found

theorem get_insert (registry : PresetRegistry) (name other : List Char)
    (segments : List (List Char)) :
    (registry.insert name segments).get other =
      if other = name then some segments else registry.get other := by
  by_cases same : other = name
  · simp [get, insert, same]
  · simp [get, insert, List.lookup, same, beq_false_of_ne same]

theorem addEntry_splices {registry next : PresetRegistry} {raw : List Char}
    (splices : registry.Splices) (added : registry.addEntry raw = .ok next) : next.Splices := by
  rw [addEntry] at added
  split at added
  case isTrue =>
      obtain rfl := Except.ok.inj added
      exact splices
  case isFalse =>
      split at added
      case h_1 => cases added
      case h_2 rawName options split =>
          dsimp only at added
          split_ifs at added with noName noSegments duplicate
          · split at added <;> cases added
          · split at added
            case h_1 => cases added
            case h_2 allowed =>
                obtain rfl := Except.ok.inj added
                intro name segments found
                rw [get_insert] at found
                split at found
                case isFalse => exact splices name segments found
                case isTrue =>
                    obtain rfl := Option.some.inj found
                    refine ⟨noSegments, fun segment member => ⟨fun slash => ?_, ?_⟩⟩
                    · obtain ⟨part, partMember, rfl⟩ :=
                        List.mem_map.mp (List.mem_of_mem_filter member)
                      exact not_mem_of_mem_splitOn partMember ((trim_sublist part).subset slash)
                    · simpa using List.find?_eq_none.mp allowed segment member

/-- A registry that was read can be spliced into any request. -/
theorem parse_splices {raw : List Char} {registry : PresetRegistry}
    (parsed : parse raw = .ok registry) : registry.Splices :=
  Folding.keeps (fun _ _ _ => addEntry_splices) splices_empty parsed

end PresetRegistry

/-- The codes a request may use directly; `none` is no restriction. -/
structure AllowedOptions where
  allowed : Option (List (List Char))
  deriving DecidableEq

namespace AllowedOptions

def unrestricted : AllowedOptions := ⟨none⟩

/-- `AllowedOptions::parse`: a blank setting is no restriction. -/
def parse (raw : List Char) : AllowedOptions :=
  let codes := ((raw.splitOn ',').map trim).filter (· ≠ [])
  if codes = [] then unrestricted else ⟨some codes⟩

def isAllowed (options : AllowedOptions) (code : List Char) : Bool :=
  match options.allowed with
  | none => true
  | some codes => codes.contains code

end AllowedOptions

end Url

end ImageResizer
