import CollectionTypes.Credentials.Plain
import CollectionTypes.Proofs.EnvFile.Written

/-!
Credentials in a plain file come back as they were kept, whatever they hold. This is said of the
text of the file; where it is kept, and whether it can be written there, is no part of it.
-/

namespace CollectionTypes.Credentials

def entries (credentials : Credentials) : List (String × String) :=
  [("HOST", credentials.host), ("EMAIL", credentials.email), ("PASSWORD", credentials.password)]

theorem save_eq_entries (credentials : Credentials) :
    credentials.save = EnvFile.entriesText credentials.entries := by
  apply String.toList_inj.mp
  simp [save, EnvFile.entriesText, entries, EnvFile.entryLetters, EnvFile.quote,
    String.join_cons]

theorem assign_entries (credentials : Credentials) :
    credentials.entries.foldl assign {} = credentials := rfl

/-- A saved file is loaded as the credentials that were saved, whatever the environment. -/
theorem load_save (environment : EnvFile.Environment) (credentials : Credentials) :
    load environment (.text credentials.save) = .ok credentials := by
  have legal : ∀ entry ∈ credentials.entries, EnvFile.isKey entry.1.toList = true := by
    simp only [entries, List.forall_mem_cons]
    exact ⟨by decide, by decide, by decide, by simp⟩
  have read := EnvFile.entries_of_written environment legal
  rw [load, save_eq_entries, read]
  exact congrArg Except.ok (assign_entries credentials)

end CollectionTypes.Credentials
