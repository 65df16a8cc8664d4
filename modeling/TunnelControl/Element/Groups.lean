import TunnelControl.Code.ElementType

namespace TunnelControl

structure Groups where
  contains : ElementType → Bool

namespace Groups

def standardTypes : List ElementType :=
  [.bearerContext, .pdnConnection, .overloadControlInformation, .loadControlInformation,
    .remoteUeContext, .scefPdnConnection]

def standard : Groups := ⟨fun type => standardTypes.contains type⟩

def insert (groups : Groups) (type : ElementType) : Groups :=
  ⟨fun other => other == type || groups.contains other⟩

def erase (groups : Groups) (type : ElementType) : Groups :=
  ⟨fun other => other != type && groups.contains other⟩

def withExtra (extra : List ElementType) : Groups := extra.foldl insert standard

def toList (groups : Groups) : List ElementType :=
  ((List.range 256).map UInt8.ofNat).filter groups.contains

@[simp] theorem contains_insert (groups : Groups) (type other : ElementType) :
    (groups.insert type).contains other = (other == type || groups.contains other) := rfl

@[simp] theorem mem_toList {groups : Groups} {type : ElementType} :
    type ∈ groups.toList ↔ groups.contains type = true := by
  have listed : type ∈ (List.range 256).map UInt8.ofNat :=
    List.mem_map.mpr ⟨type.toNat, List.mem_range.mpr type.toNat_lt, UInt8.ofNat_toNat⟩
  simp [toList, List.mem_filter, listed]

theorem ext_toList {a b : Groups} (same : a.toList = b.toList) : a = b := by
  have agree (type : ElementType) : a.contains type = b.contains type := by
    rw [Bool.eq_iff_iff, ← mem_toList, ← mem_toList, same]
  obtain ⟨a⟩ := a
  obtain ⟨b⟩ := b
  exact congrArg Groups.mk (funext agree)

instance : DecidableEq Groups := fun a b =>
  decidable_of_iff (a.toList = b.toList) ⟨ext_toList, fun same => same ▸ rfl⟩

end Groups

end TunnelControl
