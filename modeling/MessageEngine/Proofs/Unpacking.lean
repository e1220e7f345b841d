import MessageEngine.Compression.Zlib

/-!
# Unpacking stops at the end of the packed data

Whoever reads bits looks at no octet beyond those it takes.  So packed data
that was unpacked to its end, with less than was asked for, is unpacked to
the same when further octets stand behind it: they are never looked at.
-/

namespace MessageEngine.Compression

namespace BitSource

/-- What comes behind the octet at hand, in whatever pieces. -/
def ahead (s : BitSource) : Bytes := s.octets ++ s.later.flatten

/-- A source of the same data with further octets behind it. -/
structure Extends (s : BitSource) (extra : Bytes) (s' : BitSource) : Prop where
  bits : s'.bits = s.bits
  ahead : s'.ahead = s.ahead ++ extra

theorem isSpent_iff (s : BitSource) : s.isSpent = true ↔ s.ahead = [] := by
  simp [isSpent, ahead, List.flatten_eq_nil_iff]

theorem ahead_ofBytes (data : Bytes) : (ofBytes data).ahead = data := flatten_pieces data

theorem extends_ofBytes (data extra : Bytes) :
    (ofBytes data).Extends extra (ofBytes (data ++ extra)) :=
  ⟨rfl, by rw [ahead_ofBytes, ahead_ofBytes]⟩

namespace Extends

variable {s s' t : BitSource} {extra : Bytes}

theorem aligned (h : s.Extends extra s') : s.aligned.Extends extra s'.aligned := ⟨rfl, h.ahead⟩

theorem isSpent (h : s.Extends extra s') (hspent : s'.isSpent = true) : s.isSpent = true := by
  rw [isSpent_iff, h.ahead, List.append_eq_nil_iff] at hspent
  exact (isSpent_iff s).2 hspent.1

end Extends

end BitSource

/-! ## Readers that look no further than they take -/

/-- Values in which a source stands, and when they are the same but for further octets behind
that source. -/
class HasSource (ρ : Type) where
  Extends : ρ → Bytes → ρ → Prop

instance : HasSource BitSource := ⟨BitSource.Extends⟩

instance {α ρ : Type} [HasSource ρ] : HasSource (α × ρ) :=
  ⟨fun r extra r' ↦ r'.1 = r.1 ∧ HasSource.Extends r.2 extra r'.2⟩

open HasSource (Extends)

/-- What is read, once it is read, stays the same whatever comes behind. -/
structure Local {ρ τ : Type} [HasSource ρ] [HasSource τ] (read : ρ → Except Flaw τ) : Prop where
  extend {r r' : ρ} {extra : Bytes} {t : τ} (hr : Extends r extra r') (h : read r = .ok t) :
    ∃ t', read r' = .ok t' ∧ Extends t extra t'

namespace Local

variable {α ρ τ υ : Type} [HasSource ρ] [HasSource τ] [HasSource υ]

theorem ok {f : ρ → τ} (hf : ∀ {r extra r'}, Extends r extra r' → Extends (f r) extra (f r')) :
    Local fun r ↦ .ok (f r) := by
  constructor
  intro r r' extra t hr h
  cases h
  exact ⟨f r', rfl, hf hr⟩

theorem value (a : α) : Local fun r : ρ ↦ .ok (a, r) := ok fun hr ↦ ⟨rfl, hr⟩

theorem error (flaw : Flaw) : Local fun _ : ρ ↦ (.error flaw : Except Flaw τ) := by
  constructor
  intro r r' extra t hr h
  cases h

theorem pair {read : α × ρ → Except Flaw τ} (h : ∀ a, Local fun r ↦ read (a, r)) :
    Local read := by
  constructor
  rintro ⟨a, r⟩ ⟨a', r'⟩ extra t ⟨ha, hr⟩ hread
  change a' = a at ha
  subst ha
  exact (h a').extend hr hread

theorem bind {read : ρ → Except Flaw τ} {next : τ → Except Flaw υ} (hread : Local read)
    (hnext : Local next) : Local fun r ↦ read r >>= next := by
  constructor
  intro r r' extra u hr h
  cases hfirst : read r with
  | error flaw =>
      simp only [hfirst] at h
      cases h
  | ok t =>
      simp only [hfirst] at h
      obtain ⟨t', hfirst', ht⟩ := hread.extend hr hfirst
      obtain ⟨u', hrest, hu⟩ := hnext.extend ht h
      refine ⟨u', ?_, hu⟩
      simp only [hfirst']
      exact hrest

theorem andThen {read : ρ → Except Flaw (α × τ)} {next : α × τ → Except Flaw υ}
    (hread : Local read) (hnext : ∀ a, Local fun t ↦ next (a, t)) :
    Local fun r ↦ read r >>= next :=
  hread.bind (pair hnext)

/-- A result that does not come from the source. -/
theorem known (found : Except Flaw α) {next : α → ρ → Except Flaw τ} (h : ∀ a, Local (next a)) :
    Local fun r ↦ found >>= fun a ↦ next a r := by
  cases found with
  | error flaw => exact error flaw
  | ok a => exact h a

theorem ite {c : Prop} [Decidable c] {read other : ρ → Except Flaw τ} (hread : Local read)
    (hother : Local other) : Local fun r ↦ if c then read r else other r := by
  by_cases h : c
  · simpa only [if_pos h] using hread
  · simpa only [if_neg h] using hother

end Local

namespace BitSource

theorem shift_eq_some {octets : Bytes} {later : List Bytes} {x : UInt8} {s : BitSource}
    (h : shift octets later = some (x, s)) :
    s.bits = [] ∧ octets ++ later.flatten = x :: s.ahead := by
  induction later generalizing octets with
  | nil =>
      cases octets with
      | nil => cases h
      | cons y octets =>
          cases h
          exact ⟨rfl, rfl⟩
  | cons piece later ih =>
      cases octets with
      | nil => exact ih h
      | cons y octets =>
          cases h
          exact ⟨rfl, rfl⟩

theorem exists_shift {octets rest : Bytes} {later : List Bytes} {x : UInt8}
    (h : octets ++ later.flatten = x :: rest) :
    ∃ s, shift octets later = some (x, s) ∧ s.bits = [] ∧ s.ahead = rest := by
  induction later generalizing octets with
  | nil =>
      cases octets with
      | nil => cases h
      | cons y octets =>
          cases h
          exact ⟨_, rfl, rfl, rfl⟩
  | cons piece later ih =>
      cases octets with
      | nil => exact ih h
      | cons y octets =>
          cases h
          exact ⟨_, rfl, rfl, rfl⟩

theorem Extends.shift {s s' t : BitSource} {extra : Bytes} {x : UInt8} (h : s.Extends extra s')
    (ht : shift s.octets s.later = some (x, t)) :
    ∃ t', shift s'.octets s'.later = some (x, t') ∧ t.Extends extra t' := by
  obtain ⟨hbits, hahead⟩ := shift_eq_some ht
  have hnext : s'.octets ++ s'.later.flatten = x :: (t.ahead ++ extra) := by
    rw [← List.cons_append, ← hahead]
    exact h.ahead
  obtain ⟨t', ht', hbits', hahead'⟩ := exists_shift hnext
  exact ⟨t', ht', hbits'.trans hbits.symm, hahead'⟩

theorem Extends.bit? {s s' t : BitSource} {extra : Bytes} {b : Bool} (h : s.Extends extra s')
    (ht : s.bit? = some (b, t)) : ∃ t', s'.bit? = some (b, t') ∧ t.Extends extra t' := by
  obtain ⟨bits, octets, later⟩ := s
  obtain ⟨bits', octets', later'⟩ := s'
  obtain ⟨hbits, hahead⟩ := h
  change bits' = bits at hbits
  subst hbits
  cases bits' with
  | cons first bits =>
      cases ht
      exact ⟨_, rfl, rfl, hahead⟩
  | nil =>
      simp only [BitSource.bit?] at ht ⊢
      split at ht
      · cases ht
      · next x u hshift =>
        have hs : Extends ⟨[], octets, later⟩ extra ⟨[], octets', later'⟩ := ⟨rfl, hahead⟩
        obtain ⟨u', hu', hu⟩ := hs.shift hshift
        cases ht
        simp only [hu']
        exact ⟨_, rfl, rfl, hu.ahead⟩

theorem local_octet : Local octet := by
  constructor
  rintro s s' extra ⟨x, t⟩ hs h
  rw [octet] at h
  split at h
  · next hshift =>
    cases h
    obtain ⟨t', ht', ht⟩ := Extends.shift hs hshift
    exact ⟨(x, t'), by rw [octet, ht'], rfl, ht⟩
  · cases h

theorem local_number (n : Nat) : Local (number n) := by
  induction n with
  | zero => exact .value 0
  | succ n ih =>
      constructor
      rintro s s' extra ⟨v, t⟩ hs h
      rw [number] at h ⊢
      split at h
      · cases h
      · next b s₁ hbit =>
        obtain ⟨s₁', hbit', hs₁⟩ := Extends.bit? hs hbit
        simp only [hbit']
        split at h
        · next w s₂ hrest =>
          cases h
          obtain ⟨⟨w', s₂'⟩, hrest', hw, hs₂⟩ := ih.extend hs₁ hrest
          cases hw
          simp only [hrest']
          exact ⟨_, rfl, rfl, hs₂⟩
        · cases h

theorem local_take (n : Nat) : Local (take n) := by
  induction n with
  | zero => exact .value []
  | succ n ih => exact local_octet.andThen fun x ↦ ih.andThen fun rest ↦ .value (x :: rest)

end BitSource

/-! ## Codes, tokens and blocks -/

open BitSource (local_number)

theorem HuffmanTree.local_follow (tree : HuffmanTree) : Local tree.follow := by
  induction tree with
  | empty => exact .error .corrupt
  | leaf symbol => exact .value symbol
  | node zero one ihZero ihOne =>
      constructor
      rintro s s' extra t hs h
      rw [follow] at h ⊢
      split at h
      · cases h
      · next s₁ hbit =>
        obtain ⟨s₁', hbit', hs₁⟩ := BitSource.Extends.bit? hs hbit
        simp only [hbit']
        exact ihZero.extend hs₁ h
      · next s₁ hbit =>
        obtain ⟨s₁', hbit', hs₁⟩ := BitSource.Extends.bit? hs hbit
        simp only [hbit']
        exact ihOne.extend hs₁ h

theorem HuffmanTree.local_decode (tree : HuffmanTree) : Local tree.decode := by
  constructor
  rintro s s' extra t hs h
  rw [decode] at h ⊢
  split at h
  · cases h
  · obtain ⟨t', ht', ht⟩ := tree.local_follow.extend hs h
    simp only [ht']
    exact ⟨t', rfl, ht⟩

theorem local_nextToken (literals distances : HuffmanTree) :
    Local (nextToken literals distances) := by
  unfold nextToken
  refine literals.local_decode.andThen fun symbol ↦ ?_
  refine .ite (.value _) (.ite (.value _) ?_)
  cases Range.lengths[symbol - 257]? with
  | none => exact .error _
  | some length =>
      refine (local_number length.extra).andThen fun more ↦ ?_
      dsimp only
      refine distances.local_decode.andThen fun symbol ↦ ?_
      dsimp only
      cases Range.distances[symbol]? with
      | none => exact .error _
      | some distance => exact (local_number _).andThen fun further ↦ .ok fun ht ↦ ⟨rfl, ht⟩

theorem local_threeBitNumbers (n : Nat) : Local (threeBitNumbers n) := by
  induction n with
  | zero => exact .value []
  | succ n ih =>
      exact (local_number 3).andThen fun first ↦ ih.andThen fun rest ↦ .value (first :: rest)

theorem local_aligned {τ : Type} [HasSource τ] {read : BitSource → Except Flaw τ}
    (h : Local read) : Local fun s : BitSource ↦ read s.aligned := by
  constructor
  intro s s' extra t hs
  exact h.extend (BitSource.Extends.aligned hs)

theorem local_storedLength : Local storedLength := by
  unfold storedLength
  refine (local_aligned (local_number 16)).andThen fun length ↦ ?_
  refine (local_number 16).andThen fun inverted ↦ ?_
  exact .ite (.value _) (.error _)

theorem local_codeLengths (code : HuffmanTree) (wanted fuel count : Nat) (found : List Nat) :
    Local (codeLengths code wanted fuel count found) := by
  induction fuel generalizing count found with
  | zero => exact .error .corrupt
  | succ fuel ih =>
      change Local fun s ↦ codeLengths code wanted (fuel + 1) count found s
      unfold codeLengths
      refine .ite (.error _) (.ite (.value _) ?_)
      refine code.local_decode.andThen fun symbol ↦ ?_
      apply Local.ite (ih _ _)
      split
      · exact .known (.ok (_, 3, 2)) fun run ↦ (local_number _).andThen fun more ↦ ih _ _
      · exact .error .corrupt
      · exact .known (.ok (0, 3, 3)) fun run ↦ (local_number _).andThen fun more ↦ ih _ _
      · exact .known (.ok (0, 11, 7)) fun run ↦ (local_number _).andThen fun more ↦ ih _ _

theorem local_blockCodes : Local blockCodes := by
  unfold blockCodes
  refine Local.andThen (local_number 5) fun moreLiterals ↦ ?_
  refine Local.andThen (local_number 5) fun moreDistances ↦ ?_
  refine Local.andThen (local_number 4) fun moreLengths ↦ ?_
  apply Local.ite (.error _)
  refine Local.andThen (local_threeBitNumbers _) fun given ↦ ?_
  refine .known _ fun code ↦ ?_
  refine Local.andThen (local_codeLengths _ _ _ _ _) fun lengths ↦ ?_
  exact .known _ fun distances ↦ .known _ fun literals ↦ .ok fun hs ↦ ⟨rfl, rfl, hs⟩

theorem local_beginBlock : Local beginBlock := by
  unfold beginBlock
  refine Local.andThen (local_number 1) fun last ↦ ?_
  refine Local.andThen (local_number 2) fun kind ↦ ?_
  match kind with
  | 0 => exact local_storedLength.andThen fun length ↦ .ok fun hs ↦ ⟨rfl, rfl, hs⟩
  | 1 => exact .ok fun hs ↦ ⟨rfl, rfl, hs⟩
  | 2 =>
      exact local_blockCodes.andThen fun literals ↦ .pair fun distances ↦
        .ok fun hs ↦ ⟨rfl, rfl, hs⟩
  | _ + 3 => exact .error .corrupt

/-! ## Inflating -/

theorem size_copyBack (output : Array UInt8) (distance length : Nat) :
    (copyBack output distance length).size = output.size + length := by
  induction length generalizing output with
  | zero => rfl
  | succ length ih =>
      rw [copyBack, ih, Array.size_push]
      omega

theorem Token.size_write (token : Token) (room : Nat) (output : Array UInt8) :
    (token.write room output).size = output.size + min token.length room := by
  cases token with
  | literal octet =>
      rw [write, length]
      split
      · omega
      · rw [Array.size_push]
        omega
  | copy length distance => rw [write, size_copyBack, Token.length]

/-- What can be told of the end of inflating from where it stands: nothing that was said is taken
back, and if the data cannot but end early it does not end well. -/
def Inflated.Follows (wanted : Nat) (reach : Option Nat) (output : Array UInt8) :
    Inflated → Prop
  | complete found _ => reach = none ∧ output.size ≤ found.size
  | filled found => wanted ≤ found.size
  | incomplete _ => True
  | corrupt => True

theorem Inflated.follows_stopsAt (wanted : Nat) (reach : Option Nat) (output : Array UInt8)
    (flaw : Flaw) : (stopsAt reach output flaw).Follows wanted reach output := by
  cases flaw <;> trivial

theorem Inflated.Follows.of_step {wanted : Nat} {reach reach' : Option Nat}
    {output output' : Array UInt8} {x : Inflated} (h : x.Follows wanted reach' output')
    (hreach : reach' = none → reach = none) (hsize : output.size ≤ output'.size) :
    x.Follows wanted reach output := by
  cases x with
  | complete found source => exact ⟨hreach h.1, Nat.le_trans hsize h.2⟩
  | filled found => exact h
  | incomplete taken => trivial
  | corrupt => trivial

theorem reachBehind_eq_none_iff {wanted octets : Nat} {reach : Option Nat} {token : Token}
    {output : Array UInt8} {source : BitSource} :
    reachBehind wanted octets reach token output source = none ↔
      reach = none ∧ ¬ (output.size ≤ wanted - windowSize ∧
        wanted - windowSize < output.size + token.length ∧ 0 < wanted - windowSize ∧
          source.isSpent = true) := by
  rw [reachBehind]
  split
  · next h => simpa [and_assoc] using fun _ ↦ h
  · next h => simpa [and_assoc] using fun _ ↦ h

theorem follows_inflateFrom (asked wanted octets fuel : Nat) (last : Bool) (stage : Stage)
    (reach : Option Nat) (output : Array UInt8) (source : BitSource) :
    (inflateFrom asked wanted octets fuel last stage reach output source).Follows wanted reach
      output := by
  fun_induction inflateFrom asked wanted octets fuel last stage reach output source with
  | case1 => trivial
  | case2 => trivial
  | case3 fuel reach output source _ h => exact ⟨by simpa using h, Nat.le_refl _⟩
  | case4 fuel last reach output source _ _ flaw => exact Inflated.follows_stopsAt _ _ _ flaw
  | case5 fuel last reach output source _ _ _ _ _ _ ih => exact ih
  | case6 fuel last reach output source _ ih => exact ih
  | case7 fuel last reach output source left h => exact h
  | case8 fuel last reach output source _ left _ flaw => exact Inflated.follows_stopsAt _ _ _ flaw
  | case9 fuel last reach output source _ left _ octet _ _ ih =>
      exact ih.of_step id (by rw [Array.size_push]; omega)
  | case10 fuel last reach output source _ literals distances flaw =>
      exact Inflated.follows_stopsAt _ _ _ flaw
  | case11 fuel last reach output source _ literals distances _ _ ih => exact ih
  | case12 fuel last reach output source _ literals distances token _ _ room h =>
      change wanted ≤ (token.write room output).size
      rw [token.size_write]
      omega
  | case13 fuel last reach output source _ literals distances token _ _ room _ ih =>
      refine ih.of_step (fun h ↦ (reachBehind_eq_none_iff.1 h).1) ?_
      rw [token.size_write]
      omega

theorem size_le_of_complete {asked wanted octets fuel : Nat} {last : Bool} {stage : Stage}
    {reach : Option Nat} {output found : Array UInt8} {source rest : BitSource}
    (h : inflateFrom asked wanted octets fuel last stage reach output source =
      .complete found rest) : reach = none ∧ output.size ≤ found.size := by
  have hfollows := follows_inflateFrom asked wanted octets fuel last stage reach output source
  rwa [h] at hfollows

theorem stopsAt_ne_complete (reach : Option Nat) (output found : Array UInt8) (flaw : Flaw)
    (rest : BitSource) : stopsAt reach output flaw ≠ .complete found rest := by
  cases flaw <;> exact Inflated.noConfusion

theorem not_le_of_complete {asked wanted octets fuel : Nat} {last : Bool} {stage : Stage}
    {reach : Option Nat} {output found : Array UInt8} {source rest : BitSource}
    (h : inflateFrom asked wanted octets fuel last stage reach output source =
      .complete found rest) (hfound : found.size < asked) : ¬ asked ≤ output.size :=
  fun hasked ↦ Nat.not_le.2 hfound (Nat.le_trans hasked (size_le_of_complete h).2)

/-- What was inflated to the end of the data, and is less than was asked for, is inflated from
there just so when further octets stand behind the data. -/
def Persists (asked wanted octets octets' fuel fuel' : Nat) (stage : Stage) : Prop :=
  ∀ (last : Bool) (reach : Option Nat) (output found : Array UInt8) (s s' rest : BitSource)
    (extra : Bytes),
    inflateFrom asked wanted octets fuel last stage reach output s = .complete found rest →
    found.size < asked → s.Extends extra s' →
      ∃ rest', inflateFrom asked wanted octets' fuel' last stage none output s' =
        .complete found rest' ∧ rest.Extends extra rest'

section Persists

variable {asked wanted octets octets' fuel fuel' : Nat}

theorem persists_boundary
    (ih : ∀ stage, Persists asked wanted octets octets' fuel fuel' stage) :
    Persists asked wanted octets octets' (fuel + 1) (fuel' + 1) .boundary := by
  intro last reach output found s s' rest extra h hfound hs
  have hopen := not_le_of_complete h hfound
  rw [inflateFrom] at h ⊢
  simp only [if_neg hopen] at h ⊢
  split at h
  · next hlast =>
    rw [if_pos hlast]
    split at h
    · cases h
    · cases h
      exact ⟨s', rfl, hs⟩
  · next hlast =>
    rw [if_neg hlast]
    split at h
    · exact absurd h (stopsAt_ne_complete _ _ _ _ _)
    · next hblock =>
      obtain ⟨⟨last', stage', t'⟩, hblock', hlast', hstage', ht⟩ :=
        local_beginBlock.extend hs hblock
      cases hlast'
      cases hstage'
      simp only [hblock']
      exact ih _ _ _ _ _ _ _ _ _ h hfound ht

theorem persists_stored (ih : ∀ stage, Persists asked wanted octets octets' fuel fuel' stage)
    (left : Nat) : Persists asked wanted octets octets' (fuel + 1) (fuel' + 1) (.stored left) := by
  intro last reach output found s s' rest extra h hfound hs
  have hopen := not_le_of_complete h hfound
  cases left with
  | zero =>
      rw [inflateFrom] at h ⊢
      simp only [if_neg hopen] at h ⊢
      exact ih _ _ _ _ _ _ _ _ _ h hfound hs
  | succ left =>
      rw [inflateFrom] at h ⊢
      simp only [if_neg hopen] at h ⊢
      split at h
      · cases h
      · next hroom =>
        rw [if_neg hroom]
        split at h
        · exact absurd h (stopsAt_ne_complete _ _ _ _ _)
        · next hoctet =>
          obtain ⟨⟨x', t'⟩, hoctet', hx', ht⟩ := BitSource.local_octet.extend hs hoctet
          cases hx'
          simp only [hoctet']
          exact ih _ _ _ _ _ _ _ _ _ h hfound ht

theorem persists_tokens (ih : ∀ stage, Persists asked wanted octets octets' fuel fuel' stage)
    (literals distances : HuffmanTree) :
    Persists asked wanted octets octets' (fuel + 1) (fuel' + 1) (.tokens literals distances) := by
  intro last reach output found s s' rest extra h hfound hs
  have hopen := not_le_of_complete h hfound
  rw [inflateFrom] at h ⊢
  simp only [if_neg hopen] at h ⊢
  cases htoken : nextToken literals distances s with
  | error flaw =>
      simp only [htoken] at h
      exact absurd h (stopsAt_ne_complete _ _ _ _ _)
  | ok read =>
      obtain ⟨token, t⟩ := read
      obtain ⟨⟨token', t'⟩, htoken', hsame, ht⟩ :=
        (local_nextToken literals distances).extend hs htoken
      cases hsame
      simp only [htoken] at h
      simp only [htoken']
      cases token with
      | none => exact ih _ _ _ _ _ _ _ _ _ h hfound ht
      | some token =>
          simp only at h ⊢
          split at h
          · cases h
          · next hroom =>
            rw [if_neg hroom]
            -- no window was exceeded at the end of the data, so none is before that end
            have hreach := (reachBehind_eq_none_iff.1 (size_le_of_complete h).1).2
            have hreach' : reachBehind wanted octets' none token output t' = none :=
              reachBehind_eq_none_iff.2 ⟨rfl, fun ⟨hsize, hmark, hpos, hspent⟩ ↦
                hreach ⟨hsize, hmark, hpos, BitSource.Extends.isSpent ht hspent⟩⟩
            rw [hreach']
            exact ih _ _ _ _ _ _ _ _ _ h hfound ht

theorem persists (hfuel : fuel ≤ fuel') (stage : Stage) :
    Persists asked wanted octets octets' fuel fuel' stage := by
  induction fuel generalizing fuel' stage with
  | zero =>
      intro last reach output found s s' rest extra h
      cases h
  | succ fuel ih =>
      cases fuel' with
      | zero => cases hfuel
      | succ fuel' =>
          have ih' := ih (Nat.le_of_succ_le_succ hfuel)
          cases stage with
          | boundary => exact persists_boundary ih'
          | stored left => exact persists_stored ih' left
          | tokens literals distances => exact persists_tokens ih' literals distances

end Persists

theorem le_of_inflate_filled {asked octets : Nat} {source : BitSource} {found : Array UInt8}
    (h : inflate asked octets source = .filled found) : windowsFor asked ≤ found.size := by
  have hfollows := follows_inflateFrom asked (windowsFor asked) octets (8 * octets + 2) false
    .boundary none #[] source
  rw [inflate] at h
  rwa [h] at hfollows

theorem inflate_extends {asked octets octets' : Nat} {s s' rest : BitSource} {extra : Bytes}
    {found : Array UInt8} (h : inflate asked octets s = .complete found rest)
    (hfound : found.size < asked) (hs : s.Extends extra s') (hoctets : octets ≤ octets') :
    ∃ rest', inflate asked octets' s' = .complete found rest' ∧ rest.Extends extra rest' :=
  persists (by omega) .boundary _ _ _ _ _ _ _ _ h hfound hs

theorem le_windowsFor (asked : Nat) : asked ≤ windowsFor asked := by
  rw [windowsFor]
  have hdiv := Nat.div_add_mod (asked + windowSize - 1) windowSize
  have hmod := Nat.mod_lt (asked + windowSize - 1) (show 0 < windowSize by decide)
  rw [Nat.mul_comm] at hdiv
  omega

/-! ## The checksum and what is unpacked -/

namespace Zlib

theorem le_of_unpackBeyond_filled {asked : Nat} {data output : Bytes}
    (h : unpackBeyond asked data = .filled output) : asked ≤ output.length := by
  rw [unpackBeyond] at h
  split at h
  · split at h
    · split at h
      · rw [verify] at h
        split at h
        · cases h
        · split at h <;> cases h
      · next found hfilled =>
        cases h
        rw [Array.length_toList]
        exact Nat.le_trans (le_windowsFor asked) (le_of_inflate_filled hfilled)
      · cases h
      · cases h
    · cases h
  · cases h

theorem eq_of_verify {output found : Bytes} {rest : BitSource}
    (h : verify output rest = .complete found) : found = output := by
  rw [verify] at h
  split at h
  · cases h
  · split at h
    · cases h
      rfl
    · cases h

theorem verify_extends {output found : Bytes} {rest rest' : BitSource} {extra : Bytes}
    (h : verify output rest = .complete found) (hrest : rest.Extends extra rest') :
    verify output rest' = .complete found := by
  rw [verify] at h
  split at h
  · cases h
  · next sum t htake =>
    obtain ⟨⟨sum', t'⟩, htake', hsum, -⟩ :=
      (local_aligned (BitSource.local_take 4)).extend hrest htake
    cases hsum
    split at h
    · next hsound =>
      cases h
      rw [verify]
      simp only [htake', if_pos hsound]
    · cases h

theorem unpackBeyond_append {asked : Nat} {data output : Bytes}
    (h : unpackBeyond asked data = .complete output) (hshort : output.length < asked)
    (extra : Bytes) : unpackBeyond asked (data ++ extra) = .complete output := by
  rw [unpackBeyond] at h
  split at h
  · next method flags source htake =>
    obtain ⟨⟨head', source'⟩, htake', hhead, hsource⟩ :=
      (BitSource.local_take 2).extend (BitSource.extends_ofBytes data extra) htake
    cases hhead
    split at h
    · next hsound =>
      split at h
      · next found rest hcomplete =>
        have hoctets : data.length ≤ (data ++ extra).length := by simp
        have hfound : found.size < asked := by
          rwa [eq_of_verify h, Array.length_toList] at hshort
        obtain ⟨rest', hcomplete', hrest⟩ := inflate_extends hcomplete hfound hsource hoctets
        rw [unpackBeyond]
        simp only [htake', if_pos hsound, hcomplete']
        exact verify_extends h hrest
      · cases h
      · cases h
      · cases h
    · cases h
  · cases h

end Zlib

/-- Data that was unpacked to its end, and is less than was asked for, is unpacked to the same
with further octets behind it. -/
def Packer.StopsAtEnd (z : Packer) : Prop :=
  ∀ (asked : Nat) (data output extra : Bytes), z.unpack asked data = .ok output →
    output.length < asked → z.unpack asked (data ++ extra) = .ok output

theorem Zlib.stopsAtEnd_packer : packer.StopsAtEnd := by
  intro asked data output extra h hshort
  change unpack asked data = .ok output at h
  change unpack asked (data ++ extra) = .ok output
  have htaken {found : Bytes} (hfound : asked ≤ found.length) (h : found.take asked = output) :
      False := by
    rw [← h, List.length_take_of_le hfound] at hshort
    exact Nat.lt_irrefl _ hshort
  rw [unpack] at h
  split at h
  · next found hcomplete =>
    cases h
    have hfound : found.length < asked := by
      rw [List.length_take] at hshort
      omega
    rw [unpack, unpackBeyond_append hcomplete hfound]
  · next found hfilled =>
    cases h
    exact (htaken (le_of_unpackBeyond_filled hfilled) rfl).elim
  · split at h
    · next found _ hholds =>
      cases h
      exact (htaken ((Bytes.holds_iff _ _).1 hholds) rfl).elim
    · cases h
  · cases h

end MessageEngine.Compression
