import TtyFrame.Connector.Echo
import TtyFrame.Proofs.Pane.Access
import TtyFrame.Proofs.Pane.History
import TtyFrame.Proofs.Screen.Filling

/-! The limit of the history. The settings that a pane is created with say how many lines the
engine keeps, and nothing that happens to the pane afterwards can change that. Settings that
are taken over later are recorded with a limit of their own, and it is in force only if it is
the first one. -/

set_option autoImplicit false

namespace TtyFrame.Pane

variable {ε κ α τ : Type} [Engine ε] [Scroll.Distance α] [Connector κ]

/-- No output takes the history past a limit, and some output brings it up to there. -/
structure KeepsTo (limit : Nat) (pane : Pane ε κ α τ) : Prop where
  within : ∀ piece, (pane.output piece).1.session.view.history ≤ limit
  fills : ∃ piece, (pane.output piece).1.session.view.history = limit

theorem output_session (pane : Pane ε κ α τ) (piece : List UInt8) :
    (pane.output piece).1.session = (pane.session.output piece).1 := by
  obtain ⟨changes, worked⟩ := pane.work_eq { received := .pieces [piece] }
  exact congrArg session worked

namespace Fits

variable {limit : Nat} {pane : Pane Screen.State κ α τ}

/-- A session that reads output has a history as long as the output wants it, up to the
limit. -/
theorem output_fillBytes (fits : pane.Fits limit) (reading : pane.session.isReading = true)
    {length : Nat} (within : length ≤ limit) :
    (pane.output (Screen.State.fillBytes pane.session.size.rows length)).1.session.view.history =
      length := by
  have tall : 0 < pane.session.size.rows := Nat.lt_of_lt_of_le (by decide) fits.high
  rw [output_session]
  obtain ⟨idle, -⟩ | ⟨-, worker, screen, exited, connector, -, ⟨stream, rfl⟩, done⟩ :=
    pane.session.output_cases (Screen.State.fillBytes pane.session.size.rows length)
  · rw [reading] at idle
    cases idle
  · rw [done]
    exact (Engine.Reached.shaped fits).takeBytes_fillBytes tall stream within

theorem keepsTo_iff (fits : pane.Fits limit) (reading : pane.session.isReading = true)
    (asked : Nat) : pane.KeepsTo asked ↔ asked = limit := by
  have bounded (piece : List UInt8) : (pane.output piece).1.session.view.history ≤ limit :=
    (fits.work { received := .pieces [piece] }).history_le
  have full := fits.output_fillBytes reading (Nat.le_refl limit)
  constructor
  · intro keeps
    obtain ⟨piece, filled⟩ := keeps.fills
    refine Nat.le_antisymm ?_ ?_
    · rw [← filled]
      exact bounded piece
    · rw [← full]
      exact keeps.within _
  · rintro rfl
    exact ⟨bounded, _, full⟩

end Fits

variable [Extent α]

/-- Whatever has happened to a pane, its history is no longer than the first settings allow,
and while output is read any length up to there can be had. So the limit of the settings
that are recorded now is in force exactly if it is the limit of the first ones. -/
theorem recorded_limit_iff (config : Config) (accesses : List (Access κ α τ)) :
    let pane := ((ofConfig config : Pane Screen.State κ α τ).grantAll accesses).1
    pane.session.view.history ≤ config.effectiveScrollback ∧
      (pane.session.isReading = true →
        (∀ length ≤ config.effectiveScrollback,
          ∃ piece, (pane.output piece).1.session.view.history = length) ∧
        (pane.KeepsTo pane.config.effectiveScrollback ↔
          pane.config.effectiveScrollback = config.effectiveScrollback)) := by
  intro pane
  have fits : pane.Fits config.effectiveScrollback := (ofConfig_fits config).grantAll accesses
  exact ⟨fits.history_le, fun reading =>
    ⟨fun length within => ⟨_, fits.output_fillBytes reading within⟩,
      fits.keepsTo_iff reading pane.config.effectiveScrollback⟩⟩

/-- A pane that is to keep three lines is told to keep another number of them before four
leave the screen. -/
def toldToKeep (scrollbackLines : Nat) : Config := { columns := 5, rows := 2, scrollbackLines }

def toldAgain (scrollbackLines : Nat) : List (Access Echo Int Unit) :=
  [.own (.start {}), .own (.configure (toldToKeep scrollbackLines)),
    .own (.output [0x0A, 0x0A, 0x0A, 0x0A, 0x0A])]

theorem recorded_limit_raised :
    let pane :=
      ((ofConfig (toldToKeep 3) : Pane Screen.State Echo Int Unit).grantAll (toldAgain 4)).1
    pane.session.isReading = true ∧ ¬ pane.KeepsTo pane.config.effectiveScrollback := by
  intro pane
  have reading : pane.session.isReading = true := by decide +kernel
  obtain ⟨-, limited⟩ := recorded_limit_iff (toldToKeep 3) (toldAgain 4)
  refine ⟨reading, fun keeps => ?_⟩
  have same := (limited reading).2.mp keeps
  revert same
  decide

/-- A pane that is told to keep one line keeps three, as it was told first. -/
theorem lowered_limit_exceeded :
    ¬ ∀ (config : Config) (accesses : List (Access Echo Int Unit)),
        let pane := ((ofConfig config : Pane Screen.State Echo Int Unit).grantAll accesses).1
        pane.session.view.history ≤ pane.config.effectiveScrollback := by
  intro claimed
  have within := claimed (toldToKeep 3) (toldAgain 1)
  revert within
  decide +kernel

end TtyFrame.Pane
