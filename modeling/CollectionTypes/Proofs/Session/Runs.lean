import CollectionTypes.Proofs.Directory.Tree
import CollectionTypes.Session.Basic

/-!
Runs taken apart: what a run of two steps comes to, which steps only talk, and which leave at least
the files of a session alone. A failed step is the last one, and the session is then as that step
left it.
-/

namespace CollectionTypes.Run

section Actions

variable {σ ε α β : Type} {first : ExceptT ε (StateM σ) α} {next : α → ExceptT ε (StateM σ) β}
  {start middle after : σ} {value : α} {error : ε}

theorem bind_of_ok (ran : first start = (.ok value, middle)) :
    (first >>= next) start = next value middle := by
  simp only [bind, ExceptT.bind, ExceptT.mk, StateT.bind, ran]
  rfl

theorem bind_of_error (failed : first start = (.error error, after)) :
    (first >>= next) start = (.error error, after) := by
  simp only [bind, ExceptT.bind, ExceptT.mk, StateT.bind, failed]
  rfl

end Actions

section Steps

variable {α β : Type} {first : Run α} {next : α → Run β} {session middle after : Session}
  {value : α} {result : β} {failure : Failure}

theorem bind_get (next : Session → Run β) (session : Session) :
    (get >>= next) session = next session session :=
  bind_of_ok rfl

theorem steps_of_bind (ran : (first >>= next) session = (.ok result, after)) :
    ∃ value middle, first session = (.ok value, middle) ∧
      next value middle = (.ok result, after) := by
  rcases begun : first session with ⟨_ | value, middle⟩
  · rw [bind_of_error begun] at ran
    cases ran
  · rw [bind_of_ok begun] at ran
    exact ⟨value, middle, rfl, ran⟩

/-- A run fails in its first step or behind it. -/
theorem stops_of_bind (ran : (first >>= next) session = (.error failure, after)) :
    first session = (.error failure, after) ∨
      ∃ value middle, first session = (.ok value, middle) ∧
        next value middle = (.error failure, after) := by
  rcases begun : first session with ⟨_ | value, middle⟩
  · rw [bind_of_error begun] at ran
    cases ran
    exact .inl rfl
  · rw [bind_of_ok begun] at ran
    exact .inr ⟨value, middle, rfl, ran⟩

theorem or_fail_ok {ε : Type} {refuse : ε → Failure} {outcome : Except ε α}
    (ran : orFail refuse outcome session = (.ok value, after)) :
    outcome = .ok value ∧ after = session := by
  cases outcome with
  | error error => cases ran
  | ok found =>
      obtain ⟨rfl, rfl⟩ : found = value ∧ session = after := by
        cases ran
        exact ⟨rfl, rfl⟩
      exact ⟨rfl, rfl⟩

end Steps

/-! Steps that leave the files alone, whether they fail or not. -/

def FilesKept {α : Type} (action : Run α) : Prop :=
  ∀ session, (action session).2.files = session.files

section Kept

variable {α : Type}

theorem FilesKept.same_files {action : Run α} {session after : Session}
    {outcome : Except Failure α} (kept : FilesKept action)
    (ran : action session = (outcome, after)) : after.files = session.files := by
  have own := kept session
  rwa [ran] at own

theorem files_kept_write (text : String) : FilesKept (write text) := fun _ => rfl

end Kept

/-! Steps that only talk, to the server, to the user and to the log. -/

/-- What is left in a session is as it was, whether the step fails or not. -/
def OnlyTalks {α : Type} (action : Run α) : Prop :=
  ∀ session, ∃ wire terminal,
    (action session).2 = { session with wire := wire, terminal := terminal }

section Talk

variable {α β : Type}

theorem OnlyTalks.files_kept {action : Run α} (talks : OnlyTalks action) : FilesKept action := by
  intro session
  obtain ⟨wire, terminal, same⟩ := talks session
  rw [same]

theorem OnlyTalks.same_output {action : Run α} (talks : OnlyTalks action) (session : Session) :
    (action session).2.output = session.output := by
  obtain ⟨wire, terminal, same⟩ := talks session
  rw [same]

theorem OnlyTalks.same_write_next {action : Run α} {session after : Session}
    {outcome : Except Failure α} (talks : OnlyTalks action)
    (ran : action session = (outcome, after)) : after.writeNext = session.writeNext := by
  obtain ⟨wire, terminal, same⟩ := talks session
  rw [ran] at same
  subst same
  rfl

theorem only_talks_bind {first : Run α} {next : α → Run β} (talks : OnlyTalks first)
    (later : ∀ value, OnlyTalks (next value)) : OnlyTalks (first >>= next) := by
  intro session
  obtain ⟨wire, terminal, same⟩ := talks session
  rcases begun : first session with ⟨_ | value, middle⟩
  · rw [bind_of_error begun]
    rw [begun] at same
    exact ⟨wire, terminal, same⟩
  · rw [bind_of_ok begun]
    rw [begun] at same
    obtain rfl : middle = { session with wire := wire, terminal := terminal } := same
    exact later value _

theorem only_talks_pure (value : α) : OnlyTalks (pure value) := fun _ => ⟨_, _, rfl⟩

theorem only_talks_get : OnlyTalks (get : Run Session) := fun _ => ⟨_, _, rfl⟩

theorem only_talks_or_fail {ε : Type} (failure : ε → Failure) (outcome : Except ε α) :
    OnlyTalks (orFail failure outcome) := by
  intro session
  cases outcome <;> exact ⟨_, _, rfl⟩

theorem only_talks_on_wire (action : StateM Wire α) : OnlyTalks (onWire action) :=
  fun _ => ⟨_, _, rfl⟩

theorem only_talks_on_terminal (action : StateM Terminal α) : OnlyTalks (onTerminal action) :=
  fun _ => ⟨_, _, rfl⟩

theorem only_talks_ask (dialogue : Dialogue α) : OnlyTalks (ask dialogue) :=
  only_talks_bind (only_talks_on_terminal dialogue) fun outcome => only_talks_or_fail id outcome

theorem only_talks_note (level : Log.Level) (text : String) : OnlyTalks (note level text) :=
  only_talks_on_wire (Wire.note level text)

theorem only_talks_warn (texts : List String) : OnlyTalks (warn texts) := by
  induction texts with
  | nil => exact only_talks_pure ()
  | cons text texts induction =>
      exact only_talks_bind (only_talks_note .warn text) fun _ => induction

end Talk

/-! Changes of files. -/

section Changes

variable {failure : FileFault → Failure} {change : FileTree → Except FileFault FileTree}
  {session after : Session}

theorem change_files_ok (changed : changeFiles failure change session = (.ok (), after)) :
    change session.files = .ok after.files := by
  rw [changeFiles, bind_get] at changed
  obtain ⟨files, middle, made, stored⟩ := steps_of_bind changed
  obtain ⟨outcome, rfl⟩ := or_fail_ok made
  cases stored
  exact outcome

theorem change_files_of_ok {files : FileTree} (made : change session.files = .ok files) :
    changeFiles failure change session = (.ok (), { session with files := files }) := by
  rw [changeFiles, bind_get, made]
  rfl

/-- A change that fails changes nothing at all. -/
theorem change_files_error {fault : FileFault} (refused : change session.files = .error fault) :
    changeFiles failure change session = (.error (failure fault), session) := by
  rw [changeFiles, bind_get, refused]
  exact bind_of_error rfl

variable {path : String} {content : FileContent}

theorem put_file_eq (failure : FileFault → Failure) (path : String) (content : FileContent)
    (session : Session) :
    putFile failure path content session =
      orFail failure (session.writeNext path content).1
        { session with
          files := (session.writeNext path content).2
          interruptions := session.interruptions.tail } := rfl

theorem put_file_files (failure : FileFault → Failure) (path : String) (content : FileContent)
    (session : Session) :
    (putFile failure path content session).2.files = (session.writeNext path content).2 ∧
      (putFile failure path content session).2.output = session.output := by
  rw [put_file_eq]
  cases (session.writeNext path content).1 <;> exact ⟨rfl, rfl⟩

theorem put_file_ok (wrote : putFile failure path content session = (.ok (), after)) :
    session.files.write path content = .ok after.files := by
  rw [put_file_eq] at wrote
  obtain ⟨done, rfl⟩ := or_fail_ok wrote
  exact FileTree.write_of_write_with (Prod.ext done rfl)

theorem put_file_error (failure : FileFault → Failure) {fault : FileFault}
    (broken : (session.writeNext path content).1 = .error fault) :
    ∃ after, putFile failure path content session = (.error (failure fault), after) ∧
      after.files = (session.writeNext path content).2 := by
  rw [put_file_eq, broken]
  exact ⟨_, rfl, rfl⟩

end Changes

def offline (files : FileTree) : Session where
  wire := { server := fun _ => .dropped }
  files := files
  sealing := ⟨[], [], 0⟩

end CollectionTypes.Run
