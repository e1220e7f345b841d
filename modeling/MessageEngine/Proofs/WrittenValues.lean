import MessageEngine.Proofs.WireRoundTrip
import MessageEngine.Wire.Writer

/-!
# Values among others

What a writer puts behind its octets for a value depends on the value alone,
and a reader that comes to that place reads the value and stands right behind
it, whatever is written in front and behind.  So any values that are written
one behind the other are read one behind the other.
-/

namespace MessageEngine

namespace Writer

theorem content_count (n : Nat) (w : Writer) :
    (w.count n).content = w.content ++ Bytes.le 4 n := w.content_put _

theorem content_bool (v : Bool) (w : Writer) :
    (w.bool v).content = w.content ++ [if v then 1 else 0] := w.content_put _

theorem content_blob (b : Bytes) (w : Writer) : (w.blob b).content = w.content ++ b.sized := by
  rw [blob, content_put, content_count, List.append_assoc, Bytes.sized]

/-- Where each step puts octets behind those of the writer, the steps together do so too. -/
theorem content_foldl {α : Type} {write : Writer → α → Writer} {encode : α → Bytes}
    (hwrite : ∀ w v, (write w v).content = w.content ++ encode v) (vs : List α) (w : Writer) :
    (vs.foldl write w).content = w.content ++ vs.flatMap encode := by
  induction vs generalizing w with
  | nil => rw [List.foldl_nil, List.flatMap_nil, List.append_nil]
  | cons v vs ih => rw [List.foldl_cons, ih, hwrite, List.flatMap_cons, List.append_assoc]

theorem content_value (t : WireType) (v : t.Value) (w : Writer) :
    (w.value t v).content = w.content ++ t.encode v := by
  induction t generalizing w with
  | scalar kind =>
      rw [value, content_put, WireType.encode_scalar]
  | bool =>
      rw [value, content_bool, WireType.encode_bool]
  | string =>
      rw [value, content_blob, WireType.encode_string]
  | bytes =>
      rw [value, content_blob, WireType.encode_bytes]
  | vec element ih =>
      change List element.Value at v
      rw [value, content_foldl (fun w x ↦ ih x w), content_count, WireType.encode_vec,
        List.append_assoc]
  | opt inner ih =>
      change Option inner.Value at v
      cases v with
      | none =>
          rw [value, content_bool, WireType.encode_none]
          rfl
      | some x =>
          rw [value, ih, content_bool, WireType.encode_some, List.append_assoc]
          rfl

theorem content_values (vs : List (Sigma WireType.Value)) (w : Writer) :
    (w.values vs).content = w.content ++ vs.flatMap fun v ↦ v.1.encode v.2 :=
  content_foldl (fun w v ↦ content_value v.1 v.2 w) vs w

end Writer

namespace Reader

/-- A reader of some octets that has come to a position in them. -/
def within (b : Bytes) (position : Nat) : Reader := ⟨position, b.drop position⟩

/-- Values of some types, one behind the other. -/
def values : List WireType → Reader → Result (List (Sigma WireType.Value))
  | [], r => (.ok [], r)
  | t :: ts, r =>
    andThen (r.value t) fun v r ↦ andThen (values ts r) fun vs r ↦ (.ok (⟨t, v⟩ :: vs), r)

theorem within_length_append (b rest : Bytes) : within (b ++ rest) b.length = ⟨b.length, rest⟩ := by
  rw [within, List.drop_left]

theorem value_within (t : WireType) (v : t.Value) (h : t.Fits v) (w s : Bytes) :
    (within (w ++ t.encode v ++ s) w.length).value t =
      (.ok v, within (w ++ t.encode v ++ s) (w.length + (t.encode v).length)) := by
  have hahead : within (w ++ t.encode v ++ s) w.length = ⟨w.length, t.encode v ++ s⟩ := by
    rw [List.append_assoc, within_length_append]
  have hbehind : within (w ++ t.encode v ++ s) (w.length + (t.encode v).length) =
      ⟨w.length + (t.encode v).length, s⟩ := by
    rw [← List.length_append, within_length_append]
  rw [hahead, hbehind]
  exact value_append w.length s t v h

theorem values_append {vs : List (Sigma WireType.Value)} (h : ∀ v ∈ vs, v.1.Fits v.2) (p : Nat)
    (s : Bytes) :
    (Reader.mk p (vs.flatMap (fun v ↦ v.1.encode v.2) ++ s)).values (vs.map Sigma.fst) =
      (.ok vs, ⟨p + (vs.flatMap fun v ↦ v.1.encode v.2).length, s⟩) := by
  induction vs generalizing p with
  | nil => rfl
  | cons v vs ih =>
      have hrest := ih (fun x hx ↦ h x (List.mem_cons_of_mem v hx)) (p + (v.1.encode v.2).length)
      rw [List.map_cons, values, List.flatMap_cons, List.append_assoc,
        value_append p _ v.1 v.2 (h v List.mem_cons_self)]
      simp only [andThen, hrest, List.length_append, Nat.add_assoc]

end Reader

/-- A value is put behind what a writer holds, as octets that depend on the value alone, and is
read from there if its lengths fit in their four octets, whatever stands in front and behind.
Values of any types that are written one behind the other are read in order, and nothing
remains. -/
theorem Writer.read_back :
    (∀ (t : WireType) (v : t.Value), ∃ e : Bytes, ∀ w : Writer,
      (w.value t v).content = w.content ++ e ∧
        (t.Fits v → ∀ s : Bytes,
          (Reader.within (w.content ++ e ++ s) w.content.length).value t =
            (.ok v, Reader.within (w.content ++ e ++ s) (w.content.length + e.length)))) ∧
      ∀ vs : List (Sigma WireType.Value), (∀ v ∈ vs, v.1.Fits v.2) → ∀ w : Writer,
        ∃ r : Reader,
          (Reader.within (w.values vs).content w.content.length).values (vs.map Sigma.fst) =
            (.ok vs, r) ∧
          r.position = (w.values vs).content.length ∧ r.hasRemaining = false := by
  constructor
  · intro t v
    refine ⟨t.encode v, fun w ↦ ⟨Writer.content_value t v w, fun hfits s ↦ ?_⟩⟩
    exact Reader.value_within t v hfits w.content s
  · intro vs hfits w
    have hread := Reader.values_append hfits w.content.length []
    rw [List.append_nil] at hread
    rw [Writer.content_values, Reader.within_length_append]
    refine ⟨_, hread, ?_, rfl⟩
    rw [List.length_append]

namespace Specimen

/-- A float that is no number, an absent one, and a text whose characters take several octets. -/
def assorted : List (Sigma WireType.Value) :=
  [⟨.vec (.opt (.scalar .f64)), ([some 0x7ff8000000000001, none] : List (Option UInt64))⟩,
    ⟨.string, "é"⟩, ⟨.vec (.vec .bool), ([[], [true]] : List (List Bool))⟩]

end Specimen

theorem Writer.read_back_assorted :
    (∀ v ∈ Specimen.assorted, v.1.Fits v.2) ∧
      ∃ r : Reader,
        (Reader.within ((Writer.ofBytes [7, 7]).values Specimen.assorted).content 2).values
            (Specimen.assorted.map Sigma.fst) = (.ok Specimen.assorted, r) ∧
          r.position = 35 ∧ r.hasRemaining = false := by
  have hfits : ∀ v ∈ Specimen.assorted, v.1.Fits v.2 := by
    intro v hv
    have hlength : ∀ v ∈ Specimen.assorted, (v.1.encode v.2).length < UInt32.size := by
      decide +kernel
    exact v.1.fits_of_length_encode_lt v.2 (hlength v hv)
  have hread := Writer.read_back.2 Specimen.assorted hfits (Writer.ofBytes [7, 7])
  have hlength : ((Writer.ofBytes [7, 7]).values Specimen.assorted).content.length = 35 := by
    decide +kernel
  rw [hlength] at hread
  exact ⟨hfits, hread⟩

end MessageEngine
