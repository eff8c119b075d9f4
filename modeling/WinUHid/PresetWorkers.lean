import WinUHid.MailboxUpdates
import WinUHid.MailboxClose
import WinUHid.Ps4Led
import WinUHid.XOneRumble

namespace WinUHid

/-- Neither preset loses an LED or rumble state, or the stop of its thread. -/
theorem presetWorkers_deliver :
    (∀ p, Runs.Reach ps4Gamepad.step Runs.anyStep ps4Gamepad.Fresh p → Mailbox.Delivers p) ∧
      ∀ p, Runs.Reach xOneGamepad.step Runs.anyStep xOneGamepad.Fresh p → Mailbox.Delivers p :=
  ⟨fun _ h => (Mailbox.Updated.reach h).delivers, fun _ h => (Mailbox.Updated.reach h).delivers⟩

/-- An output report that sets the colour. -/
def redLed : ReceivedEvent where
  type := .writeReport
  reportId := ds4OutputReportEffects
  writeData := [0x05, 0x02, 0, 0, 0, 0, 0xff, 0, 0, 0, 0]

theorem presetWorkers_deliver_runs :
    (∃ p, Runs.Reach ps4Gamepad.step Runs.anyStep ps4Gamepad.Fresh p ∧
      p.shared.loaded.ledRed = 0 ∧ p.shared.published.ledRed = 0xff ∧ p.shared.signalled = false ∧
      .setEvent ∈ p.threads) ∧
    ∃ p, Runs.Reach xOneGamepad.step Runs.anyStep xOneGamepad.Fresh p ∧
      p.shared.worker = .waitUpdate ∧ p.shared.signalled := by
  constructor
  · obtain ⟨p, hr, hl, hp, hs, hc⟩ := ps4Gamepad.exists_reach
      (P := fun p => p.shared.loaded.ledRed = 0 ∧ p.shared.published.ledRed = 0xff ∧
        p.shared.signalled = false ∧ p.shared.eventClosed = false)
      true [.worker true false, .worker true false, .arrives redLed, .client 0, .client 0]
      (by decide)
    have unseen : p.shared.published ≠ p.shared.loaded := by
      intro he
      simp [he, hl] at hp
    rcases (presetWorkers_deliver.1 p hr).updates hc unseen with h | h
    · simp [hs] at h
    · exact ⟨p, hr, hl, hp, hs, h⟩
  · obtain ⟨p, hr, hw, ho⟩ := xOneGamepad.exists_reach
      (P := fun p => p.shared.worker = .waitUpdate ∧ p.shared.owner.signalled)
      true [.worker true false, .worker true false, .owner, .owner] (by decide)
    exact ⟨p, hr, hw, (presetWorkers_deliver.2 p hr).stop ho hw⟩

/-- No output report signals an update event after the teardown has closed it exactly where none
that is handed on is in progress at the close or comes after it. -/
theorem presetTeardown_inTime (thread : Bool) (actions : List (Mailbox.Action ReceivedEvent)) :
    (∀ p, ps4Gamepad.run thread actions = some p →
      (ps4Gamepad.OrderlyRun thread actions → p.shared.lateSignals = 0) ∧
        (p.shared.owner = .returned → p.shared.lateSignals = 0 →
          ps4Gamepad.OrderlyRun thread actions)) ∧
    ∀ p, xOneGamepad.run thread actions = some p →
      (xOneGamepad.OrderlyRun thread actions → p.shared.lateSignals = 0) ∧
        (p.shared.owner = .returned → p.shared.lateSignals = 0 →
          xOneGamepad.OrderlyRun thread actions) :=
  ⟨fun _ h => Mailbox.inTime_iff_orderly h, fun _ h => Mailbox.inTime_iff_orderly h⟩

def blueLed : ReceivedEvent where
  type := .writeReport
  reportId := ds4OutputReportEffects
  writeData := [0x05, 0x02, 0, 0, 0, 0, 0, 0, 0xff, 0, 0]

def shortRumble : ReceivedEvent where
  type := .writeReport
  reportId := 0
  writeData := [0x0f, 0, 0, 0x40, 0x40, 10, 0, 0]

/-- An output report that is handed on before the teardown. -/
def reportFirst (event : ReceivedEvent) : List (Mailbox.Action ReceivedEvent) :=
  [.arrives event, .client 0, .client 0, .client 0, .client 0, .owner, .owner,
    .worker true false, .worker true false, .owner, .owner, .owner, .owner]

/-- An output report that comes when the update event has just been closed. -/
def reportLast (event : ReceivedEvent) : List (Mailbox.Action ReceivedEvent) :=
  [.owner, .owner, .worker true false, .worker true false, .owner, .owner, .owner,
    .arrives event, .client 0, .client 0, .client 0]

theorem presetTeardown_inTime_reportFirst :
    (∃ p, ps4Gamepad.run true (reportFirst blueLed) = some p ∧ p.shared.owner = .returned ∧
      p.shared.published.ledBlue = 0xff ∧ p.shared.lateSignals = 0) ∧
    ∃ p, xOneGamepad.run true (reportFirst shortRumble) = some p ∧ p.shared.owner = .returned ∧
      p.shared.published.duration = 10 ∧ p.shared.lateSignals = 0 := by
  constructor
  · obtain ⟨p, hp, hr, hb⟩ := ps4Gamepad.exists_run true (reportFirst blueLed)
      (P := fun p => p.shared.owner = .returned ∧ p.shared.published.ledBlue = 0xff) (by decide)
    exact ⟨p, hp, hr, hb, ((presetTeardown_inTime _ _).1 p hp).1 (by decide)⟩
  · obtain ⟨p, hp, hr, hd⟩ := xOneGamepad.exists_run true (reportFirst shortRumble)
      (P := fun p => p.shared.owner = .returned ∧ p.shared.published.duration = 10) (by decide)
    exact ⟨p, hp, hr, hd, ((presetTeardown_inTime _ _).2 p hp).1 (by decide)⟩

/-- The thread handle is closed and not cleared, and the device still delivers output reports. -/
theorem presetTeardown_late :
    (∃ p, Runs.Reach ps4Gamepad.step Runs.anyStep ps4Gamepad.Fresh p ∧ 0 < p.shared.lateSignals) ∧
      ∃ p, Runs.Reach xOneGamepad.step Runs.anyStep xOneGamepad.Fresh p ∧
        0 < p.shared.lateSignals :=
  ⟨ps4Gamepad.exists_reach true (reportLast blueLed) (by decide),
    xOneGamepad.exists_reach true (reportLast shortRumble) (by decide)⟩

end WinUHid
