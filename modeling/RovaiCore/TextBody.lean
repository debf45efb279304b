import Mathlib.Algebra.Ring.Nat
/-!
# The body of a text block (`Body`)

The text of a block stays in memory up to a limit and then moves to a spool file.
-/
namespace Rovai

def memoryBytes : Nat := 64 * 1024

inductive AppendIo where
  | ok
  | spoolFailed
  | seekFailed
  | frameFailed (written : Nat)
  deriving DecidableEq

structure Body where
  memory : String
  spool : Option ByteArray
  bytes : Nat

def Body.empty : Body := { memory := "", spool := none, bytes := 0 }

def Body.spill (body : Body) : Body := { body with memory := "", spool := some body.memory.toUTF8 }

/-- `write_all` of a frame at the end of the spool; a frame written in part is cut off (`set_len`). -/
def Body.appendFrame (io : AppendIo) (body : Body) (file : ByteArray) (text : String) : Body × Bool :=
  match io with
  | .seekFailed => (body, false)
  | .frameFailed written =>
    ({ body with spool := some ((file ++ text.toUTF8.extract 0 written).extract 0 body.bytes) }, false)
  | _ => ({ body with spool := some (file ++ text.toUTF8), bytes := body.bytes + text.utf8ByteSize }, true)

def Body.append (io : AppendIo) (body : Body) (text : String) : Body × Bool :=
  match body.spool with
  | some file => body.appendFrame io file text
  | none =>
    if body.bytes + text.utf8ByteSize > memoryBytes then
      if io = .spoolFailed then (body, false)
      else body.spill.appendFrame io body.memory.toUTF8 text
    else ({ body with memory := body.memory ++ text, bytes := body.bytes + text.utf8ByteSize }, true)

def Body.text (body : Body) : Option String :=
  match body.spool with
  | some file => String.fromUTF8? file
  | none => some body.memory

/-! ## What a body holds -/

structure Body.Holds (body : Body) (text : String) : Prop where
  bytes : body.bytes = text.utf8ByteSize
  stored : match body.spool with
    | some file => file = text.toUTF8
    | none => body.memory = text

theorem fromUTF8?_toUTF8 (text : String) : String.fromUTF8? text.toUTF8 = some text := by
  unfold String.fromUTF8?
  exact dif_pos text.isValidUTF8

theorem holds_empty : Body.empty.Holds "" := ⟨rfl, rfl⟩

variable {text : String} {body : Body}

theorem Body.Holds.text_eq (h : body.Holds text) : body.text = some text := by
  obtain ⟨-, hstored⟩ := h
  unfold Body.text
  cases hspool : body.spool with
  | none =>
    rw [hspool] at hstored
    exact congrArg some hstored
  | some file =>
    rw [hspool] at hstored
    simp only at hstored ⊢
    rw [hstored, fromUTF8?_toUTF8]

theorem toUTF8_append (s t : String) : s.toUTF8 ++ t.toUTF8 = (s ++ t).toUTF8 := rfl

theorem extract_frame (text frame : String) (written : Nat) :
    (text.toUTF8 ++ frame.toUTF8.extract 0 written).extract 0 text.utf8ByteSize = text.toUTF8 :=
  ByteArray.extract_append_eq_left rfl

theorem holds_appendFrame (h : body.Holds text) (io : AppendIo) {file : ByteArray}
    (hspool : body.spool = some file) (frame : String) :
    (body.appendFrame io file frame).1.Holds
      (if (body.appendFrame io file frame).2 then text ++ frame else text) := by
  obtain ⟨hbytes, hstored⟩ := h
  rw [hspool] at hstored
  simp only at hstored
  subst hstored
  have hgrows : (⟨body.memory, some (text.toUTF8 ++ frame.toUTF8), body.bytes + frame.utf8ByteSize⟩ : Body).Holds
      (text ++ frame) := ⟨by rw [hbytes, String.utf8ByteSize_append], toUTF8_append text frame⟩
  cases io with
  | ok => exact hgrows
  | spoolFailed => exact hgrows
  | seekFailed => exact ⟨hbytes, by rw [Body.appendFrame, hspool]; rfl⟩
  | frameFailed written =>
    refine ⟨hbytes, ?_⟩
    show (text.toUTF8 ++ frame.toUTF8.extract 0 written).extract 0 body.bytes = text.toUTF8
    rw [hbytes]
    exact extract_frame text frame written

theorem holds_spill (h : body.Holds text) (hspool : body.spool = none) : body.spill.Holds text := by
  obtain ⟨hbytes, hstored⟩ := h
  rw [hspool] at hstored
  exact ⟨hbytes, congrArg String.toUTF8 hstored⟩

/-- **An append extends the text a body holds, or leaves it.** -/
theorem holds_append (h : body.Holds text) (io : AppendIo) (frame : String) :
    (body.append io frame).1.Holds (if (body.append io frame).2 then text ++ frame else text) := by
  unfold Body.append
  cases hspool : body.spool with
  | some file => exact holds_appendFrame h io hspool frame
  | none =>
    simp only
    split
    · split
      · exact h
      · exact holds_appendFrame (holds_spill h hspool) io rfl frame
    · obtain ⟨hbytes, hstored⟩ := h
      rw [hspool] at hstored
      have hgrows : (⟨body.memory ++ frame, none, body.bytes + frame.utf8ByteSize⟩ : Body).Holds (text ++ frame) :=
        ⟨by rw [hbytes, String.utf8ByteSize_append], congrArg (fun t => t ++ frame) hstored⟩
      exact hspool ▸ hgrows

/-! ## UTF-16 lengths -/

def utf16Units (c : Char) : Nat := if c.val ≤ 0xFFFF then 1 else 2

def utf16Length (text : String) : Nat := (text.toList.map utf16Units).sum

theorem utf16Length_append (s t : String) : utf16Length (s ++ t) = utf16Length s + utf16Length t := by
  simp [utf16Length]

end Rovai
