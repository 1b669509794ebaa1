import FleetRollout.Fleet.Device

/-! The devices that a deployment is meant for: named one by one, by a group, by a saved filter, or
all of them. -/
namespace FleetRollout

open Json (Reader Record Syntax)

inductive Target where
  /-- Nothing is picked yet. -/
  | unselected
  /-- Devices in the order they were picked. -/
  | devices (ids : List DeviceId)
  /-- A device group. -/
  | group (name : String)
  /-- Every accepted device. -/
  | allDevices
  /-- A saved filter. -/
  | filter (filter : SavedFilter)
deriving DecidableEq, Repr, Inhabited

inductive TargetMode where
  | explicitDevices
  | dynamicGroup
  | allDevices
  | savedFilter
deriving DecidableEq, Repr

namespace TargetMode

def name : TargetMode → String
  | explicitDevices => "EXPLICIT_DEVICES"
  | dynamicGroup => "DYNAMIC_GROUP"
  | allDevices => "ALL_DEVICES"
  | savedFilter => "SAVED_FILTER"

def label : TargetMode → String
  | explicitDevices => "ExplicitDevices"
  | dynamicGroup => "DynamicGroup"
  | allDevices => "AllDevices"
  | savedFilter => "SavedFilter"

end TargetMode

namespace Target

def allDevicesLabel : String := "ALL_DEVICES"

/-- The kind of the target; an empty list of devices is no selection. -/
def mode : Target → Option TargetMode
  | unselected => none
  | devices ids => if ids.isEmpty then none else some .explicitDevices
  | group _ => some .dynamicGroup
  | allDevices => some .allDevices
  | filter _ => some .savedFilter

/-- The target that loosely filled fields mean: devices come first, then the label of all devices,
then a filter, then a group name. -/
def ofFields (ids : List DeviceId) (groupName : Option String) (saved : Option SavedFilter) :
    Target :=
  if !ids.isEmpty then devices ids
  else
    match groupName, saved with
    | some name, saved =>
      if name = allDevicesLabel then allDevices
      else match saved with
        | some f => filter f
        | none => if name.isEmpty then unselected else group name
    | none, some f => filter f
    | none, none => unselected

inductive Tag where
  | unselected
  | devices
  | group
  | allDevices
  | filter
deriving DecidableEq, Repr

def Tag.name : Tag → String
  | unselected => "UNSELECTED"
  | devices => "EXPLICIT_DEVICES"
  | group => "DYNAMIC_GROUP"
  | allDevices => "ALL_DEVICES"
  | filter => "SAVED_FILTER"

def Tag.words : List (String × Tag) :=
  [unselected, devices, group, allDevices, filter].map fun t => (t.name, t)

def Tag.read : Reader Tag := .word Tag.words

/-- A target is written as its tag and, if it has one, its value. -/
def toJson : Target → Json
  | unselected => .obj [("mode", .str Tag.unselected.name)]
  | devices ids => .obj [("mode", .str Tag.devices.name), ("value", .strings ids)]
  | group name => .obj [("mode", .str Tag.group.name), ("value", .str name)]
  | allDevices => .obj [("mode", .str Tag.allDevices.name)]
  | filter f => .obj [("mode", .str Tag.filter.name), ("value", f.toJson)]

def ofTag? : Tag → Option Target
  | .unselected => some unselected
  | .allDevices => some allDevices
  | _ => none

def readValue (tag : Tag) (level : Nat) (s : Syntax) : Option Target :=
  match tag, s with
  | .unselected, .null => some unselected
  | .allDevices, .null => some allDevices
  | .unselected, _ | .allDevices, _ => none
  | .devices, s => (Reader.list .string level s).map devices
  | .group, s => (Reader.string level s).map group
  | .filter, s => (SavedFilter.read level s).map filter

/-- Reads a target from tag and value, in either order. A value that stands before its tag has to
be readable as a whole, with whatever members it has besides. In an array the tag is a string. -/
def read : Reader Target
  | level, .obj members => do
    match ← Record.known ["mode", "value"] members with
    | [("mode", tag)] => ofTag? (← Tag.read (level + 1) tag)
    | [("mode", tag), ("value", value)] => readValue (← Tag.read (level + 1) tag) (level + 1) value
    | [("value", value), ("mode", tag)] =>
      let _ ← Reader.value (level + 1) value
      readValue (← Tag.read (level + 1) tag) (level + 1) value
    | _ => none
  | level, .arr [tag, value] => do
    readValue (← Reader.plainWord Tag.words (level + 1) tag) (level + 1) value
  | _, _ => none

end Target
end FleetRollout
