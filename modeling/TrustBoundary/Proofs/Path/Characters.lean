import TrustBoundary.Proofs.Path.Grammar
import TrustBoundary.Proofs.Text.SafeText

/-!
# The characters of a path

A path is scanned for its components, and a text is checked for display character by
character.  The scan passes over slashes and dots without asking whether they may be shown,
two dots at once, so the two stop at different places.  But all that it passes over is
printable, so wherever the scan stands, the check comes by.  From there both go the same way
(`agrees_scan`): they get to the end together, or they meet a character that may not be shown
and stop in front of it, unless the scan has ended for another reason before.
-/

set_option autoImplicit false

namespace TrustBoundary.Path

open Display (Objection checkRun safeWidth)

/-- What the scan of a path and the check for display may say of the same text. -/
inductive Agrees : (scanned : Except Violation Nat) → (checked : Except Objection Unit) → Prop
  /-- Both accept it. -/
  | accepted {names : Nat} : Agrees (.ok names) (.ok ())
  /-- Both stop in front of the same character. -/
  | character {position : Nat} {objection : Objection} (raised : objection.IsAt position) :
      Agrees (.error (.invalidCharacter position)) (.error objection)
  /-- The path breaks a rule about its components. -/
  | component {violation : Violation} {checked : Except Objection Unit}
      (other : ∀ position, violation ≠ .invalidCharacter position) :
      Agrees (.error violation) checked

theorem Agrees.eq_ok {names : Nat} {checked : Except Objection Unit}
    (agrees : Agrees (.ok names) checked) : checked = .ok () := by
  cases agrees
  rfl

theorem Agrees.exists_objection {position : Nat} {checked : Except Objection Unit}
    (agrees : Agrees (.error (.invalidCharacter position)) checked) :
    ∃ objection, checked = .error objection ∧ objection.IsAt position := by
  cases agrees with
  | character raised => exact ⟨_, rfl, raised⟩
  | component other => exact absurd rfl (other position)

/-! ## Step by step -/

/-- **The scan of a path and the check for display go the same way**, from wherever the scan
stands. -/
theorem agrees_scan (rules : Rules) (rest : Bytes) (position : Nat) (fresh : Bool)
    (budget names : Nat) :
    Agrees (scan rules rest position fresh budget names) (checkRun position rest) := by
  fun_induction scan rules rest position fresh budget names with
  | case1 => exact .component (by simp)
  | case2 =>
      rw [checkRun]
      exact .accepted
  | case3 position budget names first others opens allowed ih =>
      obtain rfl := eq_of_opening_slash opens
      rw [Display.checkRun_printable rfl]
      exact ih
  | case4 => exact .component (by simp)
  | case5 position budget names first others opens allowed ih =>
      obtain rfl := eq_of_opening_dot opens
      rw [Display.checkRun_printable rfl]
      exact ih
  | case6 => exact .component (by simp)
  | case7 => exact .component (by simp)
  | case8 position budget names first others opens granted ih =>
      obtain ⟨rfl, rest, rfl⟩ := exists_of_opening_dotDot opens
      rw [Display.checkRun_printable rfl, Display.checkRun_printable rfl]
      exact ih
  | case9 position fresh budget names first others objection fails =>
      rw [checkRun, fails]
      exact .character (Display.isAt_of_safeWidth fails)
  | case10 position fresh budget names first others width safe _ _ _ ih =>
      rw [checkRun, safe]
      exact ih

/-- So do the two checks of a byte string that holds a text. -/
theorem agrees_check {untrusted : Bytes} (nonempty : untrusted.untilNul ≠ []) (budget : Nat)
    (rules : Rules) : Agrees (check untrusted budget rules) (Display.check untrusted 0) := by
  rw [Display.check_of_text nonempty, check]
  split
  · rename_i empty
    exact absurd empty nonempty
  · exact .component (by simp)
  · rename_i first others _ text
    rw [text]
    exact agrees_scan rules _ 0 true budget 0

/-! ## The two checks -/

variable {untrusted : Bytes} {budget : Nat} {rules : Rules}

/-- An accepted path that is not empty may be shown. -/
theorem isSafe_of_check {names : Nat} (accepted : check untrusted budget rules = .ok names)
    (nonempty : untrusted.untilNul ≠ []) : Display.isSafe untrusted 0 := by
  have agrees := agrees_check nonempty budget rules
  rw [accepted] at agrees
  rw [Display.isSafe, agrees.eq_ok]
  rfl

/-- A path that is refused for a character holds a text. -/
theorem nonempty_of_invalidCharacter {position : Nat}
    (refused : check untrusted budget rules = .error (.invalidCharacter position)) :
    untrusted.untilNul ≠ [] := by
  intro empty
  rw [check, empty] at refused
  dsimp only at refused
  split at refused <;> cases refused

/-- A character that is refused in a path is objected to at its position. -/
theorem exists_objection_of_check {position : Nat}
    (refused : check untrusted budget rules = .error (.invalidCharacter position)) :
    ∃ objection, Display.check untrusted 0 = .error objection ∧ objection.IsAt position := by
  have agrees := agrees_check (nonempty_of_invalidCharacter refused) budget rules
  rw [refused] at agrees
  exact agrees.exists_objection

/-- **A path is stopped for a character exactly where the check for display stops.**  An accepted
path that is not empty may be shown.  A character that is refused in a path is the first that may
not be shown, and what may be shown is refused for no character. -/
theorem check_agrees_with_display (untrusted : Bytes) (budget : Nat) (rules : Rules) :
    (∀ names, check untrusted budget rules = .ok names → untrusted.untilNul ≠ [] →
      Display.isSafe untrusted 0) ∧
    (∀ position, check untrusted budget rules = .error (.invalidCharacter position) →
      ∃ objection, Display.check untrusted 0 = .error objection ∧ objection.IsAt position) ∧
    (Display.isSafe untrusted 0 →
      ∀ position, check untrusted budget rules ≠ .error (.invalidCharacter position)) := by
  refine ⟨fun names => isSafe_of_check, fun position => exists_objection_of_check, ?_⟩
  intro safe position refused
  obtain ⟨objection, objects, _⟩ := exists_objection_of_check refused
  rw [Display.isSafe, objects] at safe
  cases safe

/-- A path with a step to the parent in front of a broken character. -/
def brokenPath : Bytes := Bytes.ofText "./../a/" ++ [0xE2, 0x82]

/-- The broken character is what both checks stop at.  Without it the path may be shown, and it
is refused for its dots under stricter rules. -/
theorem brokenPath_is_stopped :
    (∃ objection, Display.check brokenPath 0 = .error objection ∧ objection.IsAt 7) ∧
    Display.isSafe (brokenPath.take 7) 0 ∧
    ∀ position, check (brokenPath.take 7) 0 .strict ≠ .error (.invalidCharacter position) := by
  have refused : check brokenPath 1 ⟨false, true, false⟩ = .error (.invalidCharacter 7) := by
    decide +kernel
  have accepted : check (brokenPath.take 7) 1 ⟨false, true, false⟩ = .ok 1 := by
    decide +kernel
  have safe : Display.isSafe (brokenPath.take 7) 0 :=
    (check_agrees_with_display _ 1 ⟨false, true, false⟩).1 1 accepted (by decide +kernel)
  exact ⟨(check_agrees_with_display _ _ _).2.1 7 refused, safe,
    (check_agrees_with_display _ 0 .strict).2.2 safe⟩

end TrustBoundary.Path
