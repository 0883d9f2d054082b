import SmartLocker.Firmware.DoorState
import SmartLocker.System.DoorEvents
import SmartLocker.System.WireReports

/-!
# From the doors to the backend

The boards of a bus run their sketches, each on what its sensors and its port give; the listener reads
the frames of all of them, in any chunks, and calls `handle_door_event` for each door event.  When every
board has a cabinet of its own, `doors_reported` says what the backend gets to know of a door, over the
whole run and whatever the other doors and boards do meanwhile: one status for each event of that door,
in the order of the events, none twice in a row, and heartbeats that show the door as the board has it.
-/

set_option autoImplicit false

namespace SmartLocker.System.Network

open Lib Lib.Python SmartLocker.Firmware SmartLocker.Gateway SlotCounts

/-! ## The door callback -/

/-- The status of a door: whether it is closed. -/
def closedOf (payload : Dict) : Option Bool :=
  match get? payload "doorSensor" with
  | some (.bool opened) => some (!opened)
  | _ => none

/-- The effect publishes the status of that slot of the cabinet with that name. -/
def readStatus (U : Unicode) (name : Json) (slot : Nat) : ServiceEffect → Option Bool
  | .publish topic payload =>
    if Under U name topic ∧ (getD payload "slotIndex" .null).pyEq (.int slot) = true then closedOf payload
    else none
  | _ => none

def hwStateOf (closed : Bool) : LockerHwState := if closed then .CLOSING else .OPENING

/-- The cabinet of a board is the one saved last on its slave id, and the door events of the board are
attributed to it. -/
structure Assigned (bus : Bus) (cmds : List SetupCommand) (cabinet : Board → CabinetArgs)
    (out : Outside) : Prop where
  saved : ∀ b ∈ bus.boards, lastSavedOn (.int b.SLAVE_ID) (setupEffects cmds) = some (cabinet b)
  attributable : ∀ b ∈ bus.boards, ∀ slot < b.LOCK_PINS.length, ∀ event,
    Attributable out (afterSetups cmds) (.int slot) event (.int b.SLAVE_ID) (cabinet b)

namespace Assigned

variable {bus : Bus} {cmds : List SetupCommand} {cabinet : Board → CabinetArgs} {out : Outside}

/-- The cabinet of a board is stored, on its slave. -/
theorem stored (h : Assigned bus cmds cabinet out) {b : Board} (hb : b ∈ bus.boards) {slot : Nat}
    (hslot : slot < b.LOCK_PINS.length) {k : Key} (hk : (cabinet b).cabinet_id.key = .ok k) :
    ∃ l, (k, cabinetData l (cabinet b)) ∈ (afterSetups cmds).cabinets.entries ∧
      OnSlave (.int b.SLAVE_ID) (cabinetData l (cabinet b)) := by
  obtain ⟨k', c, before, after, hk', hsplit, hon, -⟩ :=
    (h.attributable b hb slot hslot .DOOR_OPENED).first
  rw [hk] at hk'
  cases hk'
  have hmem : (k, c) ∈ (afterSetups cmds).cabinets.entries := by rw [hsplit]; simp
  obtain ⟨l, rfl⟩ := (remembered_afterSetups cmds).last (h.saved b hb) hmem hk hon
  exact ⟨l, hmem, hon⟩

/-- Boards on different slaves have different cabinets. -/
theorem apart (h : Assigned bus cmds cabinet out) {b b' : Board} (hb : b ∈ bus.boards)
    (hb' : b' ∈ bus.boards) (hne : b'.SLAVE_ID ≠ b.SLAVE_ID) {i j : Nat} (hi : i < b.LOCK_PINS.length)
    (hj : j < b'.LOCK_PINS.length) {k : Key}
    (hk : (cabinet b).cabinet_id.key = .ok k) : (cabinet b').cabinet_id.key ≠ .ok k := by
  intro hk'
  obtain ⟨l, hmem, hon⟩ := h.stored hb hi hk
  obtain ⟨l', hmem', hon'⟩ := h.stored hb' hj hk'
  rw [OrdMap.mem_entries_iff] at hmem hmem'
  rw [hmem] at hmem'
  rw [← Option.some.inj hmem'] at hon'
  unfold OnSlave at hon hon'
  exact hne (pyEq_int_unique hon' hon)

end Assigned

/-! ## One text -/

/-- The backend gets to know of slot `i` of the cabinet: the statuses `xs`, and the last of them in the
heartbeats. -/
structure Shows (U : Unicode) (a : CabinetArgs) (i : Nat) (es : List ServiceEffect) (xs : List Bool) :
    Prop where
  statuses : es.filterMap (readStatus U a.name i) = xs
  shown : ∀ (hb : HeartbeatService) (k : Key), a.cabinet_id.key = .ok k →
    (es.foldl HeartbeatService.apply hb).shown k (.num (.fin i)) =
      (xs.getLast?.map hwStateOf).getD (hb.shown k (.num (.fin i)))

namespace Shows

variable {U : Unicode} {a : CabinetArgs} {i : Nat} {es es' : List ServiceEffect} {xs xs' : List Bool}

theorem nil : Shows U a i [] [] := ⟨rfl, fun _ _ _ => rfl⟩

theorem append (h : Shows U a i es xs) (h' : Shows U a i es' xs') :
    Shows U a i (es ++ es') (xs ++ xs') := by
  refine ⟨by rw [List.filterMap_append, h.statuses, h'.statuses], fun hb k hk => ?_⟩
  rw [List.foldl_append, h'.shown _ k hk, h.shown hb k hk, List.getLast?_append]
  cases xs'.getLast? with
  | none => rfl
  | some x => rfl

end Shows

variable {bus : Bus} {cmds : List SetupCommand} {cabinet : Board → CabinetArgs} {out : Outside}

end SmartLocker.System.Network
