import WinUHid.InputReports

namespace WinUHid

open HandOff

/-- The report calls and read events of a gamepad, each with its locked section and its call of the
SDK. Where no locked section runs between these two of another call, every call hands over the
report that it has prepared, and no two of 256 DualSense reports in a row are handed over with the
same sequence number. -/
theorem inputReports_handedOver (g : Ps5Input) (g' : Ps4Input) :
    (∀ p, Runs.Reach ps5InputPlace.step Exclusive (Place.Fresh g) p →
      OwnContent p ∧ ∀ e ∈ p.shared.handed, ∀ e' ∈ p.shared.handed,
        e.1 < e'.1 → e'.1 < e.1 + 256 → sequenceNumber e.2 ≠ sequenceNumber e'.2) ∧
    ∀ p, Runs.Reach ps4InputPlace.step Exclusive (Place.Fresh g') p → OwnContent p := by
  refine ⟨fun p h => ?_, fun p h => ownContent_of_exclusive h⟩
  have own := ownContent_of_exclusive h
  refine ⟨own, fun e he e' he' hlt hnear same => ?_⟩
  have numbers := carried_of_reach (fun g : Ps5Input => g.sequenceNumber.toNat)
    (fun _ _ => rfl) ps5_prepare_numbers h
  have first := numbers e.1 e.2 (own e he)
  have second := numbers e'.1 e'.2 (own e' he')
  omega

/-- Gamepads that have just been created, and the report with which nothing is pressed. -/
def newPs5Input : Ps5Input := ⟨10000000, 0, 1, 0, 0⟩
def newPs4Input : Ps4Input := ⟨10000000, 0, 1, 0⟩

/-- A report call of a client, and then a read event. -/
def reportThenRead : List (HandOff.Action Int64 GamepadReport) :=
  [.arrives (some 1), .call 0 40000, .call 0 0, .arrives none, .call 0 80000, .call 0 0]

theorem inputReports_handedOver_inTurn :
    (∃ p : Pool (Shared Ps5Input GamepadReport) (Call GamepadReport),
      OwnContent p ∧ p.shared.handed.map (fun e => sequenceNumber e.2) = [0, 1]) ∧
    ∃ p : Pool (Shared Ps4Input GamepadReport) (Call GamepadReport),
      OwnContent p ∧ p.shared.handed.map Prod.fst = [0, 1] := by
  have reached : ∃ p, Runs.Reach ps5InputPlace.step Exclusive (Place.Fresh newPs5Input) p ∧
      p.shared.handed.map (fun e => sequenceNumber e.2) = [0, 1] :=
    Runs.exists_reach_of_run ps5InputPlace.step Exclusive (by rfl) reportThenRead
      (by decide +kernel)
  have reached' : ∃ p, Runs.Reach ps4InputPlace.step Exclusive (Place.Fresh newPs4Input) p ∧
      p.shared.handed.map Prod.fst = [0, 1] :=
    Runs.exists_reach_of_run ps4InputPlace.step Exclusive (by rfl) reportThenRead
      (by decide +kernel)
  obtain ⟨p, hr, hp⟩ := reached
  obtain ⟨p', hr', hp'⟩ := reached'
  have handedOver := inputReports_handedOver newPs5Input newPs4Input
  exact ⟨⟨p, (handedOver.1 p hr).1, hp⟩, p', handedOver.2 p' hr', hp'⟩

/-- Two clients press and release a button, and the second one's locked section comes between the
first one's and its submission. -/
def pressAndRelease : List (HandOff.Action Int64 GamepadReport) :=
  [.arrives (some 0x280000000000000001), .arrives (some 0x080000000000000001),
    .call 0 40000, .call 1 80000, .call 0 0, .call 0 0]

/-- The first report is lost and the second one handed over twice. -/
theorem inputReports_lost :
    (∃ p, Runs.Reach ps5InputPlace.step Runs.anyStep (Place.Fresh newPs5Input) p ∧
      p.shared.handed.map (fun e => sequenceNumber e.2) = [1, 1] ∧ ¬OwnContent p) ∧
    ¬∀ (g : Ps5Input) p, Runs.Reach ps5InputPlace.step Runs.anyStep (Place.Fresh g) p →
      OwnContent p := by
  have reached : ∃ p, Runs.Reach ps5InputPlace.step Runs.anyStep (Place.Fresh newPs5Input) p ∧
      p.shared.handed.map (fun e => sequenceNumber e.2) = [1, 1] ∧ ¬OwnContent p :=
    Runs.exists_reach_of_run ps5InputPlace.step Runs.anyStep (by rfl) pressAndRelease
      (by decide +kernel)
  refine ⟨reached, fun all => ?_⟩
  obtain ⟨p, hr, -, hp⟩ := reached
  exact hp (all newPs5Input p hr)

end WinUHid
