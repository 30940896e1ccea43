import EcmaEdition.Command.FileSystem

/-!
# Looks at the file system

A look at a path fails or comes to a place and to what stands there, never both. It fails in three
ways: it cannot be said where the path leads, the links on the way lead in a circle, or the system
refuses to say what stands at the place. Four of its refusals are no failures of that last kind:
three of them mean that nothing stands there, and the fourth is the circle.
-/

set_option autoImplicit false

namespace EcmaEdition.Command

/-- The failures of a look at a path. -/
inductive Escapes (files : FileSystem) (directory path : String) : Failure → Prop
  /-- It cannot be said where the path leads. -/
  | unresolved {failure : Failure} (nowhere : files.follow directory path = .error failure) :
    Escapes files directory path failure.checkLoop
  /-- The links on the way lead in a circle. -/
  | looped {place : String} {error : SystemError} (leads : files.follow directory path = .ok place)
    (refused : files.refusal? place = some error) (circle : error.code = 40) :
    Escapes files directory path (.loop error.path)
  /-- The system does not say what stands there, for another reason than that there is nothing. -/
  | withheld {place : String} {error : SystemError}
    (leads : files.follow directory path = .ok place)
    (refused : files.refusal? place = some error)
    (other : error.code ≠ 2 ∧ error.code ≠ 9 ∧ error.code ≠ 20 ∧ error.code ≠ 40) :
    Escapes files directory path (.system error)

/-- The place to which a path leads, and what stands there. -/
inductive Stands (files : FileSystem) (directory path : String) : String → Entry → Prop
  | missing {place : String} {error : SystemError} (leads : files.follow directory path = .ok place)
    (refused : files.refusal? place = some error)
    (absent : error.code = 2 ∨ error.code = 9 ∨ error.code = 20) :
    Stands files directory path place .missing
  | unreadable {place : String} {error : SystemError}
    (leads : files.follow directory path = .ok place) (there : files.refusal? place = none)
    (failed : files.read place = .error error) :
    Stands files directory path place (.unreadable error)
  | file {place : String} {content : ByteArray} (leads : files.follow directory path = .ok place)
    (there : files.refusal? place = none) (given : files.read place = .ok content) :
    Stands files directory path place (.file content)

section look

variable {files : FileSystem} {directory path : String}

/-- One number says that links lead in a circle. -/
theorem SystemError.isLoop_iff (error : SystemError) : error.isLoop = true ↔ error.code = 40 :=
  beq_iff_eq

/-- Four numbers say that nothing stands at a path. -/
theorem SystemError.isAbsence_iff (error : SystemError) :
    error.isAbsence = true ↔
      error.code = 2 ∨ error.code = 9 ∨ error.code = 20 ∨ error.code = 40 := by
  simp [SystemError.isAbsence]

/-- A path is resolved to the place that it leads to if something stands there. -/
theorem FileSystem.resolve_of_there {place : String}
    (leads : files.follow directory path = .ok place) (there : files.refusal? place = none) :
    files.resolve directory path = .ok place := by
  simp only [resolve, leads, there]

/-- A path is resolved to the place that it leads to if its links do not lead in a circle. -/
theorem FileSystem.resolve_of_refusal {place : String} {error : SystemError}
    (leads : files.follow directory path = .ok place)
    (refused : files.refusal? place = some error) (noCircle : error.code ≠ 40) :
    files.resolve directory path = .ok place := by
  have notLoop : ¬error.isLoop = true := by rwa [error.isLoop_iff]
  simp only [resolve, leads, refused, if_neg notLoop]

/-- Where the system refuses to answer, its number tells whether there is nothing or no answer. -/
theorem FileSystem.isThere_of_refusal {place : String} {error : SystemError}
    (refused : files.refusal? place = some error) :
    files.isThere place = if error.isAbsence then .ok false else .error (.system error) := by
  unfold isThere
  rw [refused]

/-- A look with a failure has no other answer. -/
theorem Escapes.look_eq {failure : Failure} (escapes : Escapes files directory path failure) :
    files.look directory path = .error failure := by
  unfold FileSystem.look
  cases escapes with
  | unresolved nowhere => simp only [FileSystem.resolve, nowhere]
  | @looped place error leads refused circle =>
    have loop : error.isLoop = true := error.isLoop_iff.mpr circle
    simp only [FileSystem.resolve, leads, refused, loop, if_true]
  | @withheld place error leads refused other =>
    obtain ⟨noEntry, noDescriptor, noDirectory, noCircle⟩ := other
    have resolved := FileSystem.resolve_of_refusal leads refused noCircle
    have present : ¬error.isAbsence = true := by
      rw [error.isAbsence_iff]
      omega
    simp only [resolved, FileSystem.isThere_of_refusal refused, if_neg present]

/-- A look finds what stands at the place that the path leads to. -/
theorem Stands.look_eq {place : String} {entry : Entry}
    (stands : Stands files directory path place entry) :
    files.look directory path = .ok (place, entry) := by
  unfold FileSystem.look
  cases stands with
  | @missing error leads refused absent =>
    have resolved := FileSystem.resolve_of_refusal leads refused (by omega)
    have absence : error.isAbsence = true := by
      rw [error.isAbsence_iff]
      omega
    simp only [resolved, FileSystem.isThere_of_refusal refused, if_pos absence]
  | unreadable leads there failed =>
    have resolved := FileSystem.resolve_of_there leads there
    simp only [resolved, FileSystem.isThere, there, failed]
  | file leads there given =>
    have resolved := FileSystem.resolve_of_there leads there
    simp only [resolved, FileSystem.isThere, there, given]

/-- A look fails, or it finds what stands at a place. -/
theorem escapes_or_stands (files : FileSystem) (directory path : String) :
    (∃ failure, Escapes files directory path failure) ∨
      ∃ place entry, Stands files directory path place entry := by
  cases leads : files.follow directory path with
  | error failure => exact Or.inl ⟨_, .unresolved leads⟩
  | ok place =>
    cases refused : files.refusal? place with
    | none =>
      cases given : files.read place with
      | error error => exact Or.inr ⟨_, _, .unreadable leads refused given⟩
      | ok content => exact Or.inr ⟨_, _, .file leads refused given⟩
    | some error =>
      by_cases circle : error.code = 40
      · exact Or.inl ⟨_, .looped leads refused circle⟩
      · by_cases absent : error.code = 2 ∨ error.code = 9 ∨ error.code = 20
        · exact Or.inr ⟨_, _, .missing leads refused absent⟩
        · exact Or.inl ⟨_, .withheld leads refused (by omega)⟩

/-- A look fails with exactly the failures that `Escapes` lists. -/
theorem look_eq_error_iff {failure : Failure} :
    files.look directory path = .error failure ↔ Escapes files directory path failure := by
  refine ⟨?_, Escapes.look_eq⟩
  intro looked
  obtain ⟨other, escapes⟩ | ⟨place, entry, stands⟩ := escapes_or_stands files directory path
  · rw [escapes.look_eq, Except.error.injEq] at looked
    rwa [← looked]
  · rw [stands.look_eq] at looked
    cases looked

/-- A look comes to exactly the place and the entry that `Stands` describes. -/
theorem look_eq_ok_iff {place : String} {entry : Entry} :
    files.look directory path = .ok (place, entry) ↔ Stands files directory path place entry := by
  refine ⟨?_, Stands.look_eq⟩
  intro looked
  obtain ⟨failure, escapes⟩ | ⟨other, another, stands⟩ := escapes_or_stands files directory path
  · rw [escapes.look_eq] at looked
    cases looked
  · rw [stands.look_eq, Except.ok.injEq, Prod.mk.injEq] at looked
    obtain ⟨rfl, rfl⟩ := looked
    exact stands

end look

/-! ## Paths without links -/

/-- Without links, a name in the root leads to itself. -/
theorem Path.withoutLinks_name (directory : String) {name : List Char} (plain : '/' ∉ name)
    (long : 2 < name.length) :
    Path.withoutLinks directory (String.ofList ('/' :: name)) = String.ofList ('/' :: name) := by
  have letters : (String.ofList ('/' :: name)).toList = '/' :: name := String.toList_ofList
  have single : parts name = [name] := List.splitOn_eq_singleton plain
  have added : addPart [] name = [name] := by
    unfold addPart
    rw [if_neg, if_neg]
    · rintro rfl
      exact absurd long (by decide)
    · simp only [Bool.or_eq_true, decide_eq_true_eq]
      rintro (rfl | rfl) <;> exact absurd long (by decide)
  simp only [withoutLinks, letters, single, List.foldl_cons, List.foldl_nil, added,
    List.reverse_singleton, List.flatMap_singleton]

end EcmaEdition.Command
