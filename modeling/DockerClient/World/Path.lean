/-
**Paths**, as texts.

* `Path.join` — a name below a directory;
* `Path.join_below` — **joining a relative name stays below the directory**.
-/

set_option relaxedAutoImplicit false
set_option autoImplicit false

namespace DockerClient.Path

/-- A name below a directory: an absolute name stands for itself, and a separator is added unless
the directory is empty or ends in one. -/
def join (directory name : String) : String :=
  if name.toList.head? = some '/' then name
  else if directory = "" ∨ directory.toList.getLast? = some '/' then directory ++ name
  else directory ++ "/" ++ name

/-- **Joining a relative name stays below the directory.** -/
theorem join_below {directory name : String} (h : name.toList.head? ≠ some '/') :
    ∃ separator, (separator = "" ∨ separator = "/") ∧
      join directory name = directory ++ separator ++ name := by
  unfold join
  rw [if_neg h]
  split
  · exact ⟨"", Or.inl rfl, by simp⟩
  · exact ⟨"/", Or.inr rfl, rfl⟩

end DockerClient.Path
