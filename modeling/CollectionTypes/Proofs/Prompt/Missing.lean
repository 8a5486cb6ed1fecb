import CollectionTypes.Prompt.Credentials
import CollectionTypes.Proofs.Session.Runs
import CollectionTypes.Proofs.Text.Ends

/-!
Asking for what is missing of credentials. Each line that is read answers one question: the first of
them the one for the host, if the host is missing, and all others the one for the email, which is
asked until a line says something. No line is read behind that one. The password is asked for last,
and not at all if the lines run out before.
-/

namespace CollectionTypes

open Text

def IsBlankLine (line : List Char) : Prop := ∀ letter ∈ line, isBlank letter = true

namespace Terminal

def asked (terminal : Terminal) (questions : List String) (rest : List RawLine) : Terminal :=
  { terminal with input := rest, shown := terminal.shown ++ String.join questions }

section Questions

variable {terminal : Terminal} {question : String} {default : Option String} {line : List Char}
  {blanks : List (List Char)} {rest : List RawLine}

theorem asked_asked (first second : List String) (later : List RawLine) :
    (terminal.asked first rest).asked second later = terminal.asked (first ++ second) later := by
  simp [asked, String.append_assoc]

theorem asked_nothing : terminal.asked [] terminal.input = terminal := by
  simp [asked]

def answerOf (default : Option String) (line : List Char) : String :=
  if trim (String.ofList line) = "" then default.getD "" else trim (String.ofList line)

theorem ask_of_line (lines : terminal.input = some line :: rest) :
    ask question default terminal =
      (.ok (answerOf default line), terminal.asked [questionText question default] rest) := by
  simp [ask, write, lines, asked, answerOf]

theorem ask_closed (lines : terminal.input = []) : ask question default terminal =
    (.error (inputClosed question), terminal.asked [questionText question default] []) := by
  simp [ask, write, lines, asked]

theorem ask_not_text (lines : terminal.input = none :: rest) : ask question default terminal =
    (.error answerNotText, terminal.asked [questionText question default] rest) := by
  simp [ask, write, lines, asked]

theorem answer_empty_iff : trim (String.ofList line) = "" ↔ IsBlankLine line := by
  rw [trim_eq_empty_iff, String.toList_ofList]
  exact Iff.rfl

theorem ask_until_given_blank (lines : terminal.input = some line :: rest)
    (blank : IsBlankLine line) : askUntilGiven question terminal =
      askUntilGiven question (terminal.asked [questionText question none] rest) := by
  rw [askUntilGiven, ask_of_line lines]
  simp [answerOf, answer_empty_iff.mpr blank]

theorem ask_until_given_blanks (lines : terminal.input = blanks.map some ++ rest)
    (blank : ∀ line ∈ blanks, IsBlankLine line) : askUntilGiven question terminal =
      askUntilGiven question
        (terminal.asked (List.replicate blanks.length (questionText question none)) rest) := by
  induction blanks generalizing terminal with
  | nil =>
      obtain rfl : terminal.input = rest := lines
      rw [List.length_nil, List.replicate_zero, asked_nothing]
  | cons line blanks induction =>
      obtain ⟨own, others⟩ := List.forall_mem_cons.mp blank
      rw [ask_until_given_blank lines own, induction rfl others, asked_asked]
      rfl

/-- Blank lines only make the question be asked again. -/
theorem ask_until_given_said
    (lines : terminal.input = blanks.map some ++ some line :: rest)
    (blank : ∀ line ∈ blanks, IsBlankLine line) (said : ¬IsBlankLine line) :
    askUntilGiven question terminal = (.ok (trim (String.ofList line)),
      terminal.asked (List.replicate (blanks.length + 1) (questionText question none)) rest) := by
  have kept : trim (String.ofList line) ≠ "" := mt answer_empty_iff.mp said
  rw [ask_until_given_blanks lines blank, askUntilGiven, ask_of_line rfl, asked_asked,
    List.replicate_succ']
  simp [answerOf, kept]

theorem ask_until_given_closed (lines : terminal.input = blanks.map some)
    (blank : ∀ line ∈ blanks, IsBlankLine line) :
    askUntilGiven question terminal = (.error (inputClosed question),
      terminal.asked (List.replicate (blanks.length + 1) (questionText question none)) []) := by
  have ending : terminal.input = blanks.map some ++ [] := by rw [lines, List.append_nil]
  rw [ask_until_given_blanks ending blank, askUntilGiven, ask_closed rfl, asked_asked,
    List.replicate_succ']

theorem ask_until_given_not_text (lines : terminal.input = blanks.map some ++ none :: rest)
    (blank : ∀ line ∈ blanks, IsBlankLine line) :
    askUntilGiven question terminal = (.error answerNotText,
      terminal.asked (List.replicate (blanks.length + 1) (questionText question none)) rest) := by
  rw [ask_until_given_blanks lines blank, askUntilGiven, ask_not_text rfl, asked_asked,
    List.replicate_succ']

end Questions

end Terminal

/-- Where the first line that is not blank stands, if there is one. -/
theorem blank_lines_end (input : List RawLine) :
    ∃ (blanks : List (List Char)) (rest : List RawLine), input = blanks.map some ++ rest ∧
      (∀ line ∈ blanks, IsBlankLine line) ∧
      ∀ line, rest.head? = some (some line) → ¬IsBlankLine line := by
  induction input with
  | nil => exact ⟨[], [], rfl, List.forall_mem_nil _, by simp⟩
  | cons first input induction =>
      by_cases blank : ∃ line, first = some line ∧ IsBlankLine line
      · obtain ⟨line, rfl, own⟩ := blank
        obtain ⟨blanks, rest, rfl, others, ends⟩ := induction
        exact ⟨line :: blanks, rest, rfl, List.forall_mem_cons.mpr ⟨own, others⟩, ends⟩
      · refine ⟨[], first :: input, rfl, List.forall_mem_nil _, fun line same own => ?_⟩
        exact blank ⟨line, Option.some.inj same, own⟩

namespace Dialogue

open Terminal Run

def hostQuestion : String := questionText "PocketBase URL" (some defaultHost)

def emailQuestion : String := questionText "Superuser email" none

def questions (known : Credentials) (count : Nat) : List String :=
  ((if known.host.isEmpty then [hostQuestion] else []) ++ List.replicate count emailQuestion).take
    count

/-- The lines that answer for the email if it is missing: blank ones, then one that says something.
Those behind them are not read. -/
structure EmailAnswer (known : Credentials) (input : List RawLine) where
  blankLines : List (List Char)
  line : Option (List Char)
  rest : List RawLine
  lines : input = (blankLines ++ line.toList).map some ++ rest
  needed : line.isSome = known.email.isEmpty
  blank : ∀ line ∈ blankLines, IsBlankLine line
  said : ∀ said ∈ line, ¬IsBlankLine said
  skipped : line = none → blankLines = []

/-- The lines that answer for what is missing: one for the host, whatever it says, before those for
the email. -/
structure Answers (known : Credentials) (input : List RawLine) where
  hostLine : Option (List Char)
  others : List RawLine
  lines : input = hostLine.toList.map some ++ others
  needed : hostLine.isSome = known.host.isEmpty
  email : EmailAnswer known others

def EmailAnswer.value {known : Credentials} {input : List RawLine}
    (answer : EmailAnswer known input) : String :=
  answer.line.elim known.email fun line => Text.trim (String.ofList line)

def EmailAnswer.count {known : Credentials} {input : List RawLine}
    (answer : EmailAnswer known input) : Nat :=
  (answer.blankLines ++ answer.line.toList).length

namespace Answers

variable {known : Credentials} {input : List RawLine}

def host (answers : Answers known input) : String :=
  answers.hostLine.elim known.host (answerOf (some defaultHost))

def count (answers : Answers known input) : Nat :=
  answers.hostLine.toList.length + answers.email.count

/-- A host that is given stays, and one that is asked for is neither empty nor has blanks at its
ends. -/
theorem host_settled (answers : Answers known input) :
    (known.host ≠ "" → answers.host = known.host) ∧ answers.host ≠ "" ∧
      (known.host = "" → Text.trim answers.host = answers.host) := by
  have needed := answers.needed
  rw [host]
  cases found : answers.hostLine with
  | none =>
      have given : known.host ≠ "" := String.isEmpty_eq_false_iff.mp (by rw [← needed, found]; rfl)
      exact ⟨fun _ => rfl, given, fun missing => absurd missing given⟩
  | some line =>
      have missing : known.host = "" := String.isEmpty_iff.mp (by rw [← needed, found]; rfl)
      refine ⟨fun given => absurd missing given, ?_, fun _ => ?_⟩
      · rw [Option.elim_some, answerOf]
        split
        · decide
        · assumption
      · rw [Option.elim_some, answerOf]
        split
        · decide
        · exact Text.trim_trim _

end Answers

theorem EmailAnswer.value_settled {known : Credentials} {input : List RawLine}
    (answer : EmailAnswer known input) :
    (known.email ≠ "" → answer.value = known.email) ∧ answer.value ≠ "" ∧
      (known.email = "" → Text.trim answer.value = answer.value) := by
  have needed := answer.needed
  rw [value]
  cases found : answer.line with
  | none =>
      have given : known.email ≠ "" := String.isEmpty_eq_false_iff.mp (by rw [← needed, found]; rfl)
      exact ⟨fun _ => rfl, given, fun missing => absurd missing given⟩
  | some line =>
      have missing : known.email = "" := String.isEmpty_iff.mp (by rw [← needed, found]; rfl)
      exact ⟨fun given => absurd missing given, mt answer_empty_iff.mp (answer.said line found),
        fun _ => Text.trim_trim _⟩

def HasPassword (known : Credentials) (terminal : Terminal) : Prop :=
  known.password ≠ "" ∨ terminal.secrets ≠ []

/-- The password of credentials that have one, or else the next secret; and the secrets left. -/
def IsPassword (known : Credentials) (secrets : List String) (password : String)
    (left : List String) : Prop :=
  known.password ≠ "" ∧ password = known.password ∧ left = secrets ∨
    known.password = "" ∧ secrets = password :: left

/-! The dialogue in three steps. -/

def hostFor (known : Credentials) : Dialogue String :=
  if known.host.isEmpty then ask "PocketBase URL" (some defaultHost) else pure known.host

def emailFor (known : Credentials) : Dialogue String :=
  if known.email.isEmpty then askUntilGiven "Superuser email" else pure known.email

def passwordFor (known : Credentials) : Dialogue String :=
  if known.password.isEmpty then askHidden "password" else pure known.password

theorem complete_credentials_eq (known : Credentials) : completeCredentials known = (do
    let host ← hostFor known
    let email ← emailFor known
    let password ← passwordFor known
    return ⟨host, email, password⟩) := by
  simp only [completeCredentials, hostFor, emailFor, passwordFor]
  split <;> split <;> split <;> rfl

section Steps

variable {known : Credentials} {terminal : Terminal} {input : List RawLine}

theorem host_for_given (given : known.host.isEmpty = false) :
    hostFor known terminal = (.ok known.host, terminal) := by
  rw [hostFor, given]
  rfl

theorem host_for_missing (missing : known.host.isEmpty = true) :
    hostFor known = Terminal.ask "PocketBase URL" (some defaultHost) :=
  if_pos missing

theorem host_for_line (missing : known.host.isEmpty = true) {line : List Char}
    (lines : terminal.input = some line :: input) : hostFor known terminal =
      (.ok (answerOf (some defaultHost) line), terminal.asked [hostQuestion] input) :=
  host_for_missing missing ▸ ask_of_line lines

theorem host_for_answered (answers : Answers known terminal.input) :
    hostFor known terminal = (.ok answers.host,
      terminal.asked (answers.hostLine.toList.map fun _ => hostQuestion) answers.others) := by
  have needed := answers.needed
  have lines := answers.lines
  rw [Answers.host]
  cases found : answers.hostLine with
  | none =>
      have given : known.host.isEmpty = false := by rw [← needed, found]; rfl
      have unread : terminal.input = answers.others := lines.trans (by rw [found]; rfl)
      rw [host_for_given given, ← unread]
      exact congrArg (Prod.mk _) asked_nothing.symm
  | some line =>
      have missing : known.host.isEmpty = true := by rw [← needed, found]; rfl
      have ending : terminal.input = some line :: answers.others :=
        lines.trans (by rw [found]; rfl)
      rw [host_for_line missing ending, Option.elim_some, Option.toList_some, List.map_singleton]

theorem email_for_given (given : known.email.isEmpty = false) :
    emailFor known terminal = (.ok known.email, terminal) := by
  rw [emailFor, given]
  rfl

theorem email_for_answered (answer : EmailAnswer known input) (unread : terminal.input = input) :
    emailFor known terminal = (.ok answer.value,
      terminal.asked (List.replicate answer.count emailQuestion) answer.rest) := by
  have needed := answer.needed
  have lines := unread.trans answer.lines
  rw [EmailAnswer.value, EmailAnswer.count]
  cases found : answer.line with
  | none =>
      have given : known.email.isEmpty = false := by rw [← needed, found]; rfl
      have whole : terminal.input = answer.rest :=
        lines.trans (by rw [found, answer.skipped found]; rfl)
      rw [email_for_given given, answer.skipped found, ← whole]
      exact congrArg (Prod.mk _) asked_nothing.symm
  | some line =>
      have missing : known.email.isEmpty = true := by rw [← needed, found]; rfl
      have ending : terminal.input = answer.blankLines.map some ++ some line :: answer.rest :=
        lines.trans (by rw [found]; simp)
      rw [emailFor, if_pos missing, askUntilGiven,
        ask_until_given_said ending answer.blank (answer.said line found), List.length_append]
      rfl

/-- Without an answer for the email, it is asked for and all is read in vain. -/
theorem email_for_refused (unanswered : IsEmpty (EmailAnswer known input)) :
    ∃ failure shown rest,
      (∀ terminal, terminal.input = input →
        emailFor known terminal = (.error failure, terminal.asked shown rest)) ∧
      ((∀ line ∈ input, line ≠ none) → failure = inputClosed "Superuser email" ∧
        shown = List.replicate (input.length + 1) emailQuestion ∧ rest = []) := by
  have missing : known.email.isEmpty = true := by
    by_contra given
    exact unanswered.false ⟨[], none, input, rfl, by simpa using given,
      List.forall_mem_nil _, by simp, fun _ => rfl⟩
  have asks : emailFor known = Terminal.askUntilGiven "Superuser email" := if_pos missing
  obtain ⟨blanks, rest, lines, blank, ends⟩ := blank_lines_end input
  rw [asks]
  match rest with
  | [] =>
      rw [List.append_nil] at lines
      refine ⟨_, _, _, fun _ unread => ask_until_given_closed (unread.trans lines) blank,
        fun _ => ⟨rfl, ?_, rfl⟩⟩
      rw [lines, List.length_map]
      rfl
  | none :: rest =>
      refine ⟨_, _, _, fun _ unread => ask_until_given_not_text (unread.trans lines) blank,
        fun textual => ?_⟩
      exact absurd rfl (textual none (by simp [lines]))
  | some line :: rest =>
      refine (unanswered.false ⟨blanks, some line, rest, ?_, missing.symm, blank, ?_, by simp⟩).elim
      · simp [lines]
      · rintro said ⟨⟩
        exact ends line rfl

theorem questions_answered (answers : Answers known input) :
    (answers.hostLine.toList.map fun _ => hostQuestion) ++
        List.replicate answers.email.count emailQuestion = questions known answers.count := by
  rw [questions, Answers.count, ← answers.needed]
  cases answers.hostLine with
  | none => simp
  | some line => simp [Nat.add_comm 1]

/-- With the lines that answer for what is missing, only the password is still to be asked for. -/
theorem complete_of_answers (answers : Answers known terminal.input) :
    completeCredentials known terminal =
      (passwordFor known >>= fun password => pure ⟨answers.host, answers.email.value, password⟩)
        (terminal.asked (questions known answers.count) answers.email.rest) := by
  rw [complete_credentials_eq, bind_of_ok (host_for_answered answers),
    bind_of_ok (email_for_answered answers.email rfl), asked_asked, questions_answered]

theorem refused_after_host {host : String} {first : List String} {others : List RawLine}
    (asked : ∀ terminal, terminal.input = input →
      hostFor known terminal = (.ok host, terminal.asked first others))
    (unanswered : IsEmpty (EmailAnswer known others)) :
    ∃ failure shown rest,
      (∀ terminal, terminal.input = input → completeCredentials known terminal =
        (.error failure, terminal.asked (first ++ shown) rest)) ∧
      ((∀ line ∈ others, line ≠ none) → failure = inputClosed "Superuser email" ∧
        shown = List.replicate (others.length + 1) emailQuestion ∧ rest = []) := by
  obtain ⟨failure, shown, rest, refused, closed⟩ := email_for_refused unanswered
  refine ⟨failure, shown, rest, fun terminal unread => ?_, closed⟩
  rw [complete_credentials_eq, bind_of_ok (asked terminal unread),
    bind_of_error (refused (terminal.asked first others) rfl), asked_asked]

/-- Without lines that answer, the dialogue fails before the password is asked for, in a way that
depends on the lines alone; lines that are all text are then all read, and one question more is left
open. -/
theorem refused_without_answers (unanswered : IsEmpty (Answers known input)) :
    ∃ failure shown rest,
      (∀ terminal, terminal.input = input →
        completeCredentials known terminal = (.error failure, terminal.asked shown rest)) ∧
      ((∀ line ∈ input, line ≠ none) → (∃ question, failure = inputClosed question) ∧
        shown = questions known (input.length + 1) ∧ rest = []) := by
  cases missing : known.host.isEmpty with
  | false =>
      have asked (terminal : Terminal) (unread : terminal.input = input) :
          hostFor known terminal = (.ok known.host, terminal.asked [] input) := by
        rw [← unread, asked_nothing, host_for_given missing]
      obtain ⟨failure, shown, rest, refused, closed⟩ := refused_after_host asked ⟨fun answer =>
        unanswered.false ⟨none, input, rfl, missing.symm, answer⟩⟩
      refine ⟨failure, shown, rest, refused, fun textual => ?_⟩
      obtain ⟨same, rfl, ends⟩ := closed textual
      exact ⟨⟨_, same⟩, by simp [questions, missing], ends⟩
  | true =>
      match input with
      | [] =>
          refine ⟨inputClosed "PocketBase URL", [hostQuestion], [], fun terminal unread => ?_,
            fun _ => ⟨⟨_, rfl⟩, by simp [questions, missing], rfl⟩⟩
          have refused : hostFor known terminal = (.error (inputClosed "PocketBase URL"),
              terminal.asked [hostQuestion] []) := host_for_missing missing ▸ ask_closed unread
          rw [complete_credentials_eq, bind_of_error refused]
      | none :: rest =>
          refine ⟨answerNotText, [hostQuestion], rest, fun terminal unread => ?_,
            fun textual => absurd rfl (textual none (List.mem_cons_self ..))⟩
          have refused : hostFor known terminal = (.error answerNotText,
              terminal.asked [hostQuestion] rest) := host_for_missing missing ▸ ask_not_text unread
          rw [complete_credentials_eq, bind_of_error refused]
      | some line :: others =>
          obtain ⟨failure, shown, rest, refused, closed⟩ :=
            refused_after_host (fun _ => host_for_line missing) ⟨fun answer =>
              unanswered.false ⟨some line, others, rfl, missing.symm, answer⟩⟩
          refine ⟨failure, _, rest, refused, fun textual => ?_⟩
          obtain ⟨same, rfl, ends⟩ := closed (List.forall_mem_cons.mp textual).2
          exact ⟨⟨_, same⟩, by simp [questions, missing], ends⟩

theorem password_for_given (has : HasPassword known terminal) : ∃ password left,
    IsPassword known terminal.secrets password left ∧
      passwordFor known terminal = (.ok password, { terminal with secrets := left }) := by
  by_cases missing : known.password = ""
  · have asks : passwordFor known = Terminal.askHidden "password" :=
      if_pos (String.isEmpty_iff.mpr missing)
    rw [asks, Terminal.askHidden]
    cases secrets : terminal.secrets with
    | nil => exact absurd secrets (has.resolve_left (absurd missing))
    | cons secret left => exact ⟨secret, left, .inr ⟨missing, rfl⟩, rfl⟩
  · have keeps : passwordFor known = pure known.password :=
      if_neg (mt String.isEmpty_iff.mp missing)
    rw [keeps]
    exact ⟨_, _, .inl ⟨missing, rfl, rfl⟩, rfl⟩

theorem password_for_refused (without : ¬HasPassword known terminal) :
    ∃ failure, passwordFor known terminal = (.error failure, terminal) := by
  obtain ⟨missing, secrets⟩ := not_or.mp without
  have asks : passwordFor known = Terminal.askHidden "password" :=
    if_pos (String.isEmpty_iff.mpr (not_not.mp missing))
  rw [asks, Terminal.askHidden, not_not.mp secrets]
  exact ⟨_, rfl⟩

theorem completed_of_password (answers : Answers known terminal.input)
    (has : HasPassword known terminal) : ∃ password left,
      IsPassword known terminal.secrets password left ∧ completeCredentials known terminal =
        (.ok ⟨answers.host, answers.email.value, password⟩,
          { terminal.asked (questions known answers.count) answers.email.rest with
            secrets := left }) := by
  obtain ⟨password, left, isPassword, taken⟩ := password_for_given
    (show HasPassword known (terminal.asked (questions known answers.count) answers.email.rest)
      from has)
  exact ⟨password, left, isPassword, by rw [complete_of_answers answers, bind_of_ok taken]; rfl⟩

theorem refused_without_password (answers : Answers known terminal.input)
    (without : ¬HasPassword known terminal) : ∃ failure, completeCredentials known terminal =
      (.error failure, terminal.asked (questions known answers.count) answers.email.rest) := by
  obtain ⟨failure, refused⟩ := password_for_refused
    (show ¬HasPassword known (terminal.asked (questions known answers.count) answers.email.rest)
      from without)
  exact ⟨failure, by rw [complete_of_answers answers, bind_of_error refused]⟩

theorem answers_of_completed {completed : Credentials} {after : Terminal}
    (ran : completeCredentials known terminal = (.ok completed, after)) :
    Nonempty (Answers known terminal.input) := by
  by_contra unanswered
  obtain ⟨failure, shown, rest, refused, _⟩ :=
    refused_without_answers ⟨fun answers => unanswered ⟨answers⟩⟩
  cases ran.symm.trans (refused terminal rfl)

theorem outcome_of_completed (answers : Answers known terminal.input) {completed : Credentials}
    {after : Terminal} (ran : completeCredentials known terminal = (.ok completed, after)) :
    ∃ password left, IsPassword known terminal.secrets password left ∧
      completed = ⟨answers.host, answers.email.value, password⟩ ∧
      after = { terminal.asked (questions known answers.count) answers.email.rest with
        secrets := left } := by
  by_cases has : HasPassword known terminal
  · obtain ⟨password, left, isPassword, completes⟩ := completed_of_password answers has
    cases ran.symm.trans completes
    exact ⟨password, left, isPassword, rfl, rfl⟩
  · obtain ⟨failure, refused⟩ := refused_without_password answers has
    cases ran.symm.trans refused

end Steps

structure AsksForMissing (known : Credentials) (terminal : Terminal) : Prop where
  /-- There are lines that answer, and a password. -/
  completes : (∃ completed after, completeCredentials known terminal = (.ok completed, after)) ↔
    Nonempty (Answers known terminal.input) ∧ HasPassword known terminal
  /-- Each line up to the one that gives the email answers one question, and no more are read. -/
  outcome : ∀ (answers : Answers known terminal.input) completed after,
    completeCredentials known terminal = (.ok completed, after) →
      ∃ password left, IsPassword known terminal.secrets password left ∧
        completed = ⟨answers.host, answers.email.value, password⟩ ∧
        after = { terminal.asked (questions known answers.count) answers.email.rest with
          secrets := left }
  kept : ∀ completed after, completeCredentials known terminal = (.ok completed, after) →
    (known.host ≠ "" → completed.host = known.host) ∧
      (known.email ≠ "" → completed.email = known.email) ∧
      (known.password ≠ "" → completed.password = known.password)
  filled : ∀ completed after, completeCredentials known terminal = (.ok completed, after) →
    completed.host ≠ "" ∧ completed.email ≠ "" ∧
      (known.host = "" → Text.trim completed.host = completed.host) ∧
      (known.email = "" → Text.trim completed.email = completed.email)
  /-- Without lines that answer, it makes no difference which secrets there are; none is taken. -/
  refused : IsEmpty (Answers known terminal.input) → ∃ failure shown rest, ∀ secrets,
    completeCredentials known { terminal with secrets := secrets } =
      (.error failure, { terminal.asked shown rest with secrets := secrets })
  /-- Lines that run out are all read, and one question more is left open. -/
  closed : IsEmpty (Answers known terminal.input) → (∀ line ∈ terminal.input, line ≠ none) →
    ∃ question, completeCredentials known terminal = (.error (inputClosed question),
      terminal.asked (questions known (terminal.input.length + 1)) [])

/-- Whatever is known and whatever the input is, what is missing is asked for in this way, and the
questions come to an end. -/
theorem missing_parts_asked_for (known : Credentials) (terminal : Terminal) :
    AsksForMissing known terminal where
  completes := by
    constructor
    · rintro ⟨completed, after, ran⟩
      obtain ⟨answers⟩ := answers_of_completed ran
      refine ⟨⟨answers⟩, by_contra fun without => ?_⟩
      obtain ⟨failure, refused⟩ := refused_without_password answers without
      cases ran.symm.trans refused
    · rintro ⟨⟨answers⟩, has⟩
      obtain ⟨password, left, _, completes⟩ := completed_of_password answers has
      exact ⟨_, _, completes⟩
  outcome answers _ _ ran := outcome_of_completed answers ran
  kept := by
    intro completed after ran
    obtain ⟨answers⟩ := answers_of_completed ran
    obtain ⟨password, left, isPassword, rfl, rfl⟩ := outcome_of_completed answers ran
    refine ⟨answers.host_settled.1, answers.email.value_settled.1, fun given => ?_⟩
    rcases isPassword with ⟨_, same, _⟩ | ⟨missing, _⟩
    · exact same
    · exact absurd missing given
  filled := by
    intro completed after ran
    obtain ⟨answers⟩ := answers_of_completed ran
    obtain ⟨password, left, _, rfl, rfl⟩ := outcome_of_completed answers ran
    obtain ⟨_, host, hostTrimmed⟩ := answers.host_settled
    obtain ⟨_, email, emailTrimmed⟩ := answers.email.value_settled
    exact ⟨host, email, hostTrimmed, emailTrimmed⟩
  refused unanswered := by
    obtain ⟨failure, shown, rest, refused, _⟩ := refused_without_answers unanswered
    exact ⟨failure, shown, rest, fun secrets => refused { terminal with secrets := secrets } rfl⟩
  closed unanswered textual := by
    obtain ⟨failure, shown, rest, refused, closed⟩ := refused_without_answers unanswered
    obtain ⟨⟨question, rfl⟩, rfl, rfl⟩ := closed textual
    exact ⟨question, refused terminal rfl⟩

def spacedTerminal : Terminal where
  input := [some ['\n'], some [' ', '\t', '\n'], some " me@x \n".toList, some "all".toList]
  secrets := ["secret"]

def spacedAnswers : Answers {} spacedTerminal.input where
  hostLine := some ['\n']
  others := [some [' ', '\t', '\n'], some " me@x \n".toList, some "all".toList]
  lines := rfl
  needed := rfl
  email :=
    { blankLines := [[' ', '\t', '\n']]
      line := some " me@x \n".toList
      rest := [some "all".toList]
      lines := rfl
      needed := rfl
      blank := by simp [IsBlankLine]; decide
      said := by simp [IsBlankLine]; decide
      skipped := by simp }

theorem missing_parts_asked_for_spaced : ∃ after,
    completeCredentials {} spacedTerminal = (.ok ⟨defaultHost, "me@x", "secret"⟩, after) ∧
      after.input = [some "all".toList] ∧ after.secrets = [] ∧ after.shown =
        "PocketBase URL [http://127.0.0.1:8090]: Superuser email: Superuser email: " := by
  have asks := missing_parts_asked_for {} spacedTerminal
  obtain ⟨completed, after, ran⟩ := asks.completes.mpr ⟨⟨spacedAnswers⟩, .inr (by decide)⟩
  obtain ⟨password, left, isPassword, rfl, rfl⟩ := asks.outcome spacedAnswers completed after ran
  obtain ⟨given, _⟩ | ⟨_, secrets⟩ := isPassword
  · exact absurd rfl given
  · obtain ⟨rfl, rfl⟩ : "secret" = password ∧ [] = left := List.cons.inj secrets
    have host : spacedAnswers.host = defaultHost := by decide
    have email : spacedAnswers.email.value = "me@x" := by decide
    rw [host, email] at ran
    exact ⟨_, ran, rfl, rfl, by decide⟩

end Dialogue

end CollectionTypes
