import Mathlib.Data.List.Destutter
import TtyFrame.Config.Watch

/-! What a watch reports. The file is loaded whenever a batch names it, and a report is made
of whatever is loaded and differs from what was loaded before. The reports are the loaded
settings without repetitions, and other batches leave no trace. -/

set_option autoImplicit false

namespace TtyFrame.Config.Watch

/-- What is handed to a watch in one go: an error, or the paths that something happened to. -/
inductive Delivery (π : Type) where
  | failed
  | events (paths : List π)
deriving DecidableEq, Repr

/-- A delivery, and what stands in the place of the file when it is handled. -/
structure Moment (π : Type) where
  delivery : Delivery π
  source : Source

section

variable {π : Type} [DecidableEq π]

/-- Whether a delivery names a path, which it does not have to do alone. -/
def Delivery.names (own : π) : Delivery π → Bool
  | .failed => false
  | .events paths => paths.contains own

/-- A delivery as the batch that it is to the watch of a path. -/
def Delivery.batch (own : π) : Delivery π → Batch
  | .failed => .failed
  | .events paths => .changed (paths.contains own)

def handle (watch : Watch) (own : π) (moment : Moment π) : Watch × Option Config :=
  watch.observe (moment.delivery.batch own) moment.source

/-- Takes deliveries one after another to the watch of a path. -/
def handleAll (watch : Watch) (own : π) (moments : List (Moment π)) : Watch × List Config :=
  watch.observeAll (moments.map fun moment => (moment.delivery.batch own, moment.source))

/-- The settings that the file comes to whenever it is named, oldest first. -/
def loaded (own : π) (moments : List (Moment π)) : List Config :=
  (moments.filter (·.delivery.names own)).map fun moment => (load moment.source).1

end

section

variable {π : Type} [DecidableEq π] (own : π)

/-- A delivery does not name the file, or the file is as it was, or there is a report. -/
theorem handle_cases (watch : Watch) (moment : Moment π) :
    (moment.delivery.names own = false ∧ watch.handle own moment = (watch, none)) ∨
      (moment.delivery.names own = true ∧ watch.current = (load moment.source).1 ∧
        watch.handle own moment = (watch, none)) ∨
      moment.delivery.names own = true ∧ watch.current ≠ (load moment.source).1 ∧
        watch.handle own moment =
          (⟨(load moment.source).1⟩, some (load moment.source).1) := by
  obtain ⟨delivery, source⟩ := moment
  cases delivery with
  | failed => exact .inl ⟨rfl, rfl⟩
  | events paths =>
      simp only [handle, Delivery.batch, Delivery.names]
      cases paths.contains own with
      | false => exact .inl ⟨rfl, rfl⟩
      | true =>
          by_cases known : watch.current = (load source).1
          · exact .inr (.inl ⟨rfl, known, by rw [observe, if_pos known.symm]⟩)
          · exact .inr (.inr ⟨rfl, known, by rw [observe, if_neg (Ne.symm known)]⟩)

private theorem handleAll_cons (watch : Watch) (moment : Moment π) (rest : List (Moment π)) :
    watch.handleAll own (moment :: rest) =
      (((watch.handle own moment).1.handleAll own rest).1,
        (watch.handle own moment).2.toList ++ ((watch.handle own moment).1.handleAll own rest).2) :=
  rfl

theorem handleAll_append (watch : Watch) (first second : List (Moment π)) :
    watch.handleAll own (first ++ second) =
      (((watch.handleAll own first).1.handleAll own second).1,
        (watch.handleAll own first).2 ++ ((watch.handleAll own first).1.handleAll own second).2) := by
  induction first generalizing watch with
  | nil => rfl
  | cons moment rest ih => simp only [List.cons_append, handleAll_cons, ih, List.append_assoc]

/-- The settings that were there and the reports are what was loaded, without repetitions. -/
theorem handleAll_reports (watch : Watch) (moments : List (Moment π)) :
    watch.current :: (watch.handleAll own moments).2 =
      (loaded own moments).destutter' (· ≠ ·) watch.current := by
  induction moments generalizing watch with
  | nil => rfl
  | cons moment rest ih =>
      rw [handleAll_cons]
      obtain ⟨named, done⟩ | ⟨named, known, done⟩ | ⟨named, fresh, done⟩ :=
        watch.handle_cases own moment
      · have same : loaded own (moment :: rest) = loaded own rest := by simp [loaded, named]
        rw [done, same, ← ih watch]
        rfl
      · have more : loaded own (moment :: rest) = (load moment.source).1 :: loaded own rest := by
          simp [loaded, named]
        rw [done, more, List.destutter'_cons_neg _ (not_not_intro known), ← ih watch]
        rfl
      · have more : loaded own (moment :: rest) = (load moment.source).1 :: loaded own rest := by
          simp [loaded, named]
        rw [done, more, List.destutter'_cons_pos _ fresh, ← ih ⟨(load moment.source).1⟩]
        rfl

/-- What the watch remembers is what it has reported last. -/
theorem handleAll_current (watch : Watch) (moments : List (Moment π)) :
    (watch.handleAll own moments).1.current =
      (watch.handleAll own moments).2.getLastD watch.current := by
  induction moments generalizing watch with
  | nil => rfl
  | cons moment rest ih =>
      rw [handleAll_cons]
      obtain ⟨-, done⟩ | ⟨-, -, done⟩ | ⟨-, -, done⟩ := watch.handle_cases own moment
      · rw [done]
        exact ih watch
      · rw [done]
        exact ih watch
      · rw [done]
        refine (ih ⟨(load moment.source).1⟩).trans ?_
        rw [Option.toList_some, List.singleton_append, List.getLastD_cons]

private theorem handle_named (watch : Watch) {moment : Moment π}
    (named : moment.delivery.names own = true) :
    (watch.handle own moment).1.current = (load moment.source).1 := by
  obtain ⟨unnamed, -⟩ | ⟨-, known, done⟩ | ⟨-, -, done⟩ := watch.handle_cases own moment
  · rw [unnamed] at named
    cases named
  · rw [done]
    exact known
  · rw [done]

private theorem handle_unnamed (watch : Watch) {moment : Moment π}
    (unnamed : moment.delivery.names own = false) : watch.handle own moment = (watch, none) := by
  obtain ⟨-, done⟩ | ⟨named, -⟩ | ⟨named, -⟩ := watch.handle_cases own moment
  · exact done
  · rw [unnamed] at named
    cases named
  · rw [unnamed] at named
    cases named

end

/-- Whatever the deliveries are and whatever stands in the place of the file at each of them:
the first report differs from the settings that were loaded at the start, and each of the
others from the one before it, and nothing that was loaded is left out but repetitions. After
a delivery that names the file, the last report is what the file comes to at that moment. One
that does not name it is as good as none. -/
theorem changes_reported_once {π : Type} [DecidableEq π] (own : π) (initial : Source)
    (moments : List (Moment π)) :
    let first := (load initial).1
    let reports (moments : List (Moment π)) := ((start initial).handleAll own moments).2
    (first :: reports moments).IsChain (· ≠ ·) ∧
      first :: reports moments = (loaded own moments).destutter' (· ≠ ·) first ∧
      (∀ moment : Moment π, moment.delivery.names own = true →
        (reports (moments ++ [moment])).getLastD first = (load moment.source).1) ∧
      ∀ (moment : Moment π) (rest : List (Moment π)), moment.delivery.names own = false →
        (start initial).handleAll own (moments ++ moment :: rest) =
          (start initial).handleAll own (moments ++ rest) := by
  have distinct : (load initial).1 :: ((start initial).handleAll own moments).2 = _ :=
    handleAll_reports own (start initial) moments
  refine ⟨?_, distinct, fun moment named => ?_, fun moment rest unnamed => ?_⟩
  · rw [distinct]
    exact List.isChain_destutter' _ _ _
  · have last : ((start initial).handleAll own (moments ++ [moment])).1.current =
        (load moment.source).1 := by
      rw [handleAll_append]
      exact handle_named own _ named
    rw [← last]
    exact (handleAll_current own (start initial) _).symm
  · rw [handleAll_append, handleAll_append, handleAll_cons, handle_unnamed own _ unnamed]
    rfl

/-- A file that cannot be read is as good as one that is not there. -/
example : ((start .missing).handleAll () [⟨.events [()], .unreadable⟩]).2 = [] := rfl

end TtyFrame.Config.Watch
