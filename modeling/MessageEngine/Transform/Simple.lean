import MessageEngine.Transform

/-!
# Simple transforms

Masking octets, adding an octet at the end, and refusing everything.  The
first two undo themselves.
-/

namespace MessageEngine.Transform

/-- Every octet is combined with one and the same, in both directions. -/
def masking (mask : UInt8) : Transform where
  name := "xor"
  encode _ data := .ok (data.map (· ^^^ mask))
  decode data := .ok (data.map (· ^^^ mask))

/-- One more octet at the end. -/
def appending (tail : UInt8) : Transform where
  name := "append"
  encode _ data := .ok (data ++ [tail])
  decode data :=
    if data.getLast? = some tail then .ok data.dropLast
    else .error (.refused (.transform "bad tail"))

/-- Nothing passes in either direction. -/
def refusing (text : String) : Transform where
  name := "fail"
  encode _ _ := .error (.transform ("encode " ++ text))
  decode _ := .error (.refused (.transform ("decode " ++ text)))

theorem masking_undoes (mask : UInt8) : (masking mask).Undoes := by
  intro nonce data coded h
  simp only [masking, Except.ok.injEq] at h ⊢
  subst h
  rw [List.map_map]
  refine List.map_id'' (fun b ↦ ?_) data
  rw [Function.comp_apply, UInt8.xor_assoc, UInt8.xor_self, UInt8.xor_zero]

theorem appending_undoes (tail : UInt8) : (appending tail).Undoes := by
  intro nonce data coded h
  simp only [appending, Except.ok.injEq] at h ⊢
  subst h
  simp

end MessageEngine.Transform
