import EventFeed.Instances

/-! # Texts as bytes, and results one after another

The bytes of a text are read back as that text. What is done in sequence succeeds when each part of
it does.
-/

namespace EventFeed

variable {α β ε : Type}

theorem exists_of_bind_ok {r : Except ε α} {f : α → Except ε β} {b : β}
    (h : (r >>= f) = .ok b) : ∃ a, r = .ok a ∧ f a = .ok b := by
  cases r with
  | error e => cases h
  | ok a => exact ⟨a, rfl, h⟩

theorem eq_ok_of_toOption {r : Except ε α} {a : α} (h : r.toOption = some a) : r = .ok a := by
  cases r with
  | error e => cases h
  | ok b => rw [Option.some.inj h]

theorem exists_of_run_bind {x : ExceptT ε Id α} {f : α → ExceptT ε Id β} {b : β}
    (h : (x >>= f).run.run = .ok b) : ∃ a, x.run.run = .ok a ∧ (f a).run.run = .ok b := by
  rw [ExceptT.run_bind, Id.run_bind] at h
  cases hx : x.run.run with
  | error e =>
      rw [hx] at h
      cases h
  | ok a =>
      rw [hx] at h
      exact ⟨a, rfl, h⟩

/-! ## Texts -/

theorem fromUTF8?_toUTF8 (s : String) : String.fromUTF8? s.toUTF8 = some s := by
  rw [String.fromUTF8?, String.toUTF8_eq_toByteArray, dif_pos s.isValidUTF8]
  rfl

/-- A text that is put together from the bytes of its characters. -/
theorem fromUTF8?_flatMap (cs : List Char) :
    String.fromUTF8? ⟨(cs.flatMap String.utf8EncodeChar).toArray⟩ = some (String.ofList cs) := by
  have hbytes : (⟨(cs.flatMap String.utf8EncodeChar).toArray⟩ : ByteArray)
      = (String.ofList cs).toUTF8 := by
    apply ByteArray.ext
    simp [String.toUTF8, List.utf8Encode]
  rw [hbytes]
  exact fromUTF8?_toUTF8 _

end EventFeed
