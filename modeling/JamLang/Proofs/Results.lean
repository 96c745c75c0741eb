/-!
# Results of computations that may fail

What the success of two steps in a row, and a fault under another name, say about the steps.
-/

namespace JamLang

variable {ε δ α β : Type}

theorem bind_eq_ok {first : Except ε α} {next : α → Except ε β} {result : β} :
    (first >>= next) = .ok result ↔ ∃ value, first = .ok value ∧ next value = .ok result := by
  cases first with
  | error =>
    constructor
    · exact nofun
    · rintro ⟨_, ⟨⟩, _⟩
  | ok value =>
    constructor
    · exact fun isOk => ⟨value, rfl, isOk⟩
    · rintro ⟨_, ⟨⟩, isOk⟩
      exact isOk

theorem mapError_eq_ok {result : Except ε α} {rename : ε → δ} {value : α} :
    result.mapError rename = .ok value ↔ result = .ok value := by
  cases result with
  | error =>
    constructor
    · exact nofun
    · exact nofun
  | ok =>
    constructor
    · exact fun isOk => congrArg Except.ok (Except.ok.inj isOk)
    · exact fun isOk => congrArg Except.ok (Except.ok.inj isOk)

theorem mapError_eq_error {result : Except ε α} {rename : ε → δ} {fault : δ} :
    result.mapError rename = .error fault ↔
      ∃ cause, result = .error cause ∧ rename cause = fault := by
  cases result with
  | error cause =>
    constructor
    · exact fun fails => ⟨cause, rfl, Except.error.inj fails⟩
    · rintro ⟨_, ⟨⟩, rfl⟩
      rfl
  | ok =>
    constructor
    · exact nofun
    · rintro ⟨_, ⟨⟩, _⟩

end JamLang
