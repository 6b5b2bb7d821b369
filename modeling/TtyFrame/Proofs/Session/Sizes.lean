import TtyFrame.Proofs.Screen.Lawful
import TtyFrame.Proofs.Session.Mapping

/-! The size of a session, of its screen and of its connector. The session and the screen
have one size after any calls. The connector need not have it: a size that it refuses is
recorded all the same, and asking for that size again does not reach the connector. -/

set_option autoImplicit false

namespace TtyFrame

/-- A connector with an account of the sizes that it was told, the newest first, and of
whether it accepted each. -/
structure Recorded (κ : Type) where
  connector : κ
  told : List (Size × Bool) := []

namespace Recorded

variable {κ : Type}

/-- The size that was accepted last. -/
def lastAccepted : List (Size × Bool) → Option Size
  | [] => none
  | (size, true) :: _ => some size
  | (_, false) :: earlier => lastAccepted earlier

def accepted? (recorded : Recorded κ) : Option Size := lastAccepted recorded.told

instance [Connector κ] : Connector (Recorded κ) where
  takeReader recorded :=
    let (connector, outcome) := Connector.takeReader recorded.connector
    ({ recorded with connector }, outcome)
  write recorded bytes :=
    let (connector, outcome) := Connector.write recorded.connector bytes
    ({ recorded with connector }, outcome)
  resize recorded size :=
    let (connector, outcome) := Connector.resize recorded.connector size
    ({ connector, told := (size, outcome.isOk) :: recorded.told }, outcome)
  close recorded := { recorded with connector := Connector.close recorded.connector }

theorem connector_hom [Connector κ] : Connector.Hom (Recorded.connector : Recorded κ → κ) where
  takeReader _ := rfl
  write _ _ := rfl
  resize _ _ := rfl
  close _ := rfl

end Recorded

namespace Session

/-- A call that attaches, detaches or resizes. -/
inductive Call (κ : Type) where
  | start (connector : κ)
  | stop
  | resize (size : Size)

variable {ε κ τ : Type} [Engine ε]

/-- The call with an account kept from the start on. -/
def Call.recorded : Call κ → Call (Recorded κ)
  | .start connector => .start ⟨connector, []⟩
  | .stop => .stop
  | .resize size => .resize size

/-- The session without the account. -/
def forget (session : Session ε (Recorded κ) τ) : Session ε κ τ :=
  { size := session.size
    screen := session.screen
    style := session.style
    connector := session.connector.map (·.connector)
    worker := session.worker
    exited := session.exited
    listeners := session.listeners }

variable [Connector κ]

def step (session : Session ε κ τ) : Call κ → Session ε κ τ
  | .start connector => (session.start connector).1
  | .stop => session.stop.1
  | .resize size => (session.resize size).1

/-- Makes calls in order, whatever comes of each. -/
def follow (session : Session ε κ τ) (calls : List (Call κ)) : Session ε κ τ :=
  calls.foldl step session

/-- Keeping the account changes nothing else. -/
theorem forget_follow (session : Session ε (Recorded κ) τ) (calls : List (Call κ)) :
    (session.follow (calls.map Call.recorded)).forget = session.forget.follow calls := by
  induction calls generalizing session with
  | nil => rfl
  | cons call rest ih =>
      have stepped : (session.step call.recorded).forget = session.forget.step call := by
        cases call with
        | start connector =>
            have started := session.mapConnector_start Recorded.connector_hom ⟨connector, []⟩
            exact (congrArg Prod.fst started).symm
        | stop => rfl
        | resize size =>
            have resized := session.mapConnector_resize Recorded.connector_hom size
            exact (congrArg Prod.fst resized).symm
      simp only [List.map_cons, follow, List.foldl_cons]
      rw [← stepped]
      exact ih _

namespace Fits

variable {limit : Nat} {session : Session ε κ τ}

theorem step (fits : session.Fits limit) (call : Call κ) : (session.step call).Fits limit := by
  cases call with
  | start connector => exact fits.start connector
  | stop => exact fits
  | resize size => exact fits.resize size

theorem follow (fits : session.Fits limit) (calls : List (Call κ)) :
    (session.follow calls).Fits limit := by
  induction calls generalizing session with
  | nil => exact fits
  | cons call rest ih => exact ih (fits.step call)

end Fits

/-- The recorded size is the one that the connector was told last. -/
def Sized (session : Session ε (Recorded κ) τ) : Prop :=
  ∀ recorded, session.connector = some recorded →
    ∃ accepted earlier, recorded.told = (session.size, accepted) :: earlier

namespace Sized

variable {session : Session ε (Recorded κ) τ}

theorem start (sized : session.Sized) (connector : Recorded κ) :
    (session.start connector).1.Sized := by
  obtain ⟨outcome, done⟩ | ⟨opened, attached, -, -, size, done⟩ := session.start_cases connector
  · rw [done]
    exact sized
  · rw [done]
    intro recorded held
    obtain rfl := Option.some.inj held
    obtain rfl := congrArg Prod.fst size
    exact ⟨_, opened.told, rfl⟩

theorem resize (sized : session.Sized) (size : Size) : (session.resize size).1.Sized := by
  obtain ⟨-, done⟩ | ⟨-, detached, done⟩ | ⟨-, connector, -, done⟩ := session.resize_cases size
  · rw [done]
    exact sized
  · rw [done]
    intro recorded attached
    rw [detached] at attached
    cases attached
  · rw [done]
    intro recorded attached
    obtain rfl := Option.some.inj attached
    exact ⟨_, _, rfl⟩

theorem step (sized : session.Sized) (call : Call (Recorded κ)) : (session.step call).Sized := by
  cases call with
  | start connector => exact sized.start connector
  | stop => exact fun _ attached => nomatch attached
  | resize size => exact sized.resize size

theorem follow (sized : session.Sized) (calls : List (Call (Recorded κ))) :
    (session.follow calls).Sized := by
  induction calls generalizing session with
  | nil => exact sized
  | cons call rest ih => exact ih (sized.step call)

end Sized

theorem resize_size (session : Session ε κ τ) (size : Size) :
    (session.resize size).1.size = size.clamped := by
  obtain ⟨same, done⟩ | ⟨-, -, done⟩ | ⟨-, connector, -, done⟩ := session.resize_cases size
  · rw [done]
    exact same
  · rw [done]
  · rw [done]

/-- A size that the connector has refused is reported as done when it is asked for again,
and the connector is not told. -/
theorem resize_again (session : Session ε κ τ) (size : Size) :
    (session.resize size).1.resize size = ((session.resize size).1, .ok ()) := by
  obtain ⟨-, done⟩ | ⟨fresh, -⟩ | ⟨fresh, -⟩ := (session.resize size).1.resize_cases size
  · exact done
  · exact absurd (session.resize_size size) fresh
  · exact absurd (session.resize_size size) fresh

/-- A size that is not the recorded one is reported as done only if the connector has
accepted it. -/
theorem resize_ok_of_ne {session after : Session ε (Recorded κ) τ} {size : Size}
    {recorded : Recorded κ} (ok : session.resize size = (after, .ok ()))
    (attached : after.connector = some recorded) (fresh : session.size ≠ size.clamped) :
    recorded.told.head? = some (size.clamped, true) := by
  obtain ⟨same, -⟩ | ⟨-, detached, done⟩ | ⟨-, connector, -, done⟩ := session.resize_cases size
  · exact absurd same fresh
  · obtain ⟨rfl, -⟩ := Prod.mk.inj (done.symm.trans ok)
    rw [detached] at attached
    cases attached
  · obtain ⟨rfl, accepted⟩ := Prod.mk.inj (done.symm.trans ok)
    obtain rfl := Option.some.inj attached
    simp only [Connector.resize] at accepted ⊢
    cases told : Connector.resize connector.connector size.clamped with
    | mk resized outcome =>
        cases outcome with
        | error cause =>
            rw [told] at accepted
            have refused : Except.error (Error.resize cause) = .ok () := accepted
            cases refused
        | ok done => rfl

/-- After any calls, a resize that is reported as done leaves the session and the screen
with the size that was asked for. The connector has accepted that size last exactly if it
did not refuse it when it was told of it, or had accepted the same size before that. -/
theorem resize_ok_accepted_iff [Engine.Lawful ε] (config : Config) (calls : List (Call κ))
    (size : Size) {after : Session ε (Recorded κ) τ} {recorded : Recorded κ}
    (ok : ((ofConfig config).follow (calls.map Call.recorded)).resize size = (after, .ok ()))
    (attached : after.connector = some recorded) :
    after.size = size.clamped ∧
      (⟨after.view.width, after.view.height⟩ : Size) = after.size ∧
      (recorded.accepted? = some after.size ↔
        recorded.told.head? = some (after.size, true) ∨
          Recorded.lastAccepted recorded.told.tail = some after.size) ∧
      (((ofConfig config : Session ε (Recorded κ) τ).follow (calls.map Call.recorded)).size ≠
        size.clamped → recorded.accepted? = some after.size) := by
  have resized : after.size = size.clamped :=
    (congrArg (·.1.size) ok).symm.trans (resize_size _ size)
  let idle : Session ε (Recorded κ) τ := ofConfig config
  have fits : after.Fits config.effectiveScrollback := by
    have created : idle.Fits config.effectiveScrollback := ofConfig_fits config
    have stepped := (created.follow (calls.map Call.recorded)).resize size
    rw [ok] at stepped
    exact stepped
  have sized : after.Sized := by
    have detached : idle.Sized := nofun
    have stepped := (detached.follow (calls.map Call.recorded)).resize size
    rw [ok] at stepped
    exact stepped
  -- The connector was told the recorded size last, so all that is open is whether it accepted.
  obtain ⟨accepted, earlier, told⟩ := sized recorded attached
  refine ⟨resized, by rw [fits.columns, fits.lines], ?_, fun fresh => ?_⟩
  · cases accepted <;> simp [Recorded.accepted?, Recorded.lastAccepted, told]
  · have newest := resize_ok_of_ne ok attached fresh
    rw [told, List.head?_cons, Option.some.injEq, Prod.mk.injEq] at newest
    rw [Recorded.accepted?, told, newest.2, Recorded.lastAccepted]

/-- A connector that takes one size and no other. -/
structure Fixed where
  size : Size

instance : Connector Fixed where
  takeReader fixed := (fixed, .ok ())
  write fixed _ := (fixed, .ok ())
  resize fixed size :=
    (fixed, if size = fixed.size then .ok () else .error ⟨"the size cannot be changed"⟩)
  close fixed := fixed

/-- The connector takes the first size and refuses the next. -/
def refusedCalls : List (Call Fixed) := [.start ⟨⟨5, 2⟩⟩, .resize ⟨6, 2⟩]

def refused : Session Screen.State (Recorded Fixed) Unit :=
  (ofConfig { columns := 5, rows := 2 }).follow (refusedCalls.map Call.recorded)

theorem refused_told :
    refused.connector = some ⟨⟨⟨5, 2⟩⟩, [(⟨6, 2⟩, false), (⟨5, 2⟩, true)]⟩ := rfl

theorem resize_ok_accepted_refused :
    refused.resize ⟨6, 2⟩ = (refused, .ok ()) ∧ refused.size = ⟨6, 2⟩ ∧
      (⟨refused.view.width, refused.view.height⟩ : Size) = ⟨6, 2⟩ ∧
      (refused.connector.map (·.accepted?)) = some (some ⟨5, 2⟩) := by
  have again : refused.resize ⟨6, 2⟩ = (refused, .ok ()) := resize_again _ _
  obtain ⟨size, grid, -, -⟩ := resize_ok_accepted_iff { columns := 5, rows := 2 } refusedCalls
    ⟨6, 2⟩ again refused_told
  exact ⟨again, size, grid.trans size, rfl⟩

/-- Not every resize that is reported as done has been accepted by the connector. -/
theorem refused_size_reported_done :
    ¬ ∀ (config : Config) (calls : List (Call Fixed)) (size : Size)
        (after : Session Screen.State (Recorded Fixed) Unit) (recorded : Recorded Fixed),
        ((ofConfig config).follow (calls.map Call.recorded)).resize size = (after, .ok ()) →
        after.connector = some recorded → recorded.accepted? = some after.size := by
  intro claimed
  have accepted := claimed { columns := 5, rows := 2 } refusedCalls ⟨6, 2⟩ refused _
    (resize_again _ _) refused_told
  revert accepted
  decide

end Session

end TtyFrame
