/-
A request can be read back from its preimage.

Each text in a preimage is preceded by its length as a 64-bit number, so a reader knows
where it ends whatever its bytes look like (`takeField?_field_append`), and a list of texts
ends where the bytes do, without a count or an end mark (`fields?_flatMap_field`).  The
reader of a whole preimage, `read?`, accepts exactly the preimages and answers what they were
made from (`read?_eq_some_iff`).  Hence requests with the same preimage have the same source,
variant and include flags (`preimage_inj`).  Lengths of 2^64 and more would wrap, and are
ruled out by `Request.Fits`.
-/
import KernelJit.Fingerprint
import Mathlib.Algebra.Ring.Nat

namespace KernelJit

/-- The lengths of the texts that the fingerprint covers are 64-bit numbers. -/
def Request.Fits (request : Request) : Prop :=
  request.source.utf8ByteSize < 2 ^ 64 ∧
    ∀ flag ∈ request.includeFlags, flag.utf8ByteSize < 2 ^ 64

instance (request : Request) : Decidable request.Fits :=
  inferInstanceAs (Decidable (_ ∧ _))

namespace Fingerprint

/-! ## Numbers -/

/-- The number whose low bytes are given, the least significant first. -/
def ofLittleEndian : List UInt8 → Nat
  | [] => 0
  | byte :: rest => byte.toNat + 256 * ofLittleEndian rest

theorem ofLittleEndian_littleEndian {width n : Nat} (h : n < 256 ^ width) :
    ofLittleEndian (littleEndian width n) = n := by
  induction width generalizing n with
  | zero =>
    rw [Nat.pow_zero] at h
    exact (Nat.lt_one_iff.mp h).symm
  | succ width ih =>
    have hpow : 256 ^ (width + 1) = 256 ^ width * 256 := Nat.pow_succ 256 width
    rw [littleEndian, ofLittleEndian, ih (by omega), UInt8.toNat_ofNat']
    omega

/-- Bytes are the digits of the number that is read from them. -/
theorem littleEndian_ofLittleEndian {width : Nat} {bytes : List UInt8}
    (h : bytes.length = width) :
    ofLittleEndian bytes < 256 ^ width ∧ littleEndian width (ofLittleEndian bytes) = bytes := by
  subst h
  induction bytes with
  | nil => exact ⟨Nat.one_pos, rfl⟩
  | cons byte rest ih =>
    obtain ⟨hlt, hrest⟩ := ih
    have hbyte := byte.toNat_lt
    have hpow : 256 ^ (rest.length + 1) = 256 ^ rest.length * 256 := Nat.pow_succ 256 rest.length
    have hlow : UInt8.ofNat (byte.toNat + 256 * ofLittleEndian rest) = byte := by
      apply UInt8.toNat_inj.mp
      rw [UInt8.toNat_ofNat']
      omega
    have hhigh : (byte.toNat + 256 * ofLittleEndian rest) / 256 = ofLittleEndian rest := by omega
    rw [List.length_cons, littleEndian, ofLittleEndian, hlow, hhigh, hrest]
    exact ⟨by omega, rfl⟩

/-- The number in the first `width` bytes, and the bytes behind it. -/
def takeNumber? (width : Nat) (bytes : List UInt8) : Option (Nat × List UInt8) :=
  if width ≤ bytes.length then some (ofLittleEndian (bytes.take width), bytes.drop width)
  else none

theorem takeNumber?_append {width n : Nat} (h : n < 256 ^ width) (rest : List UInt8) :
    takeNumber? width (littleEndian width n ++ rest) = some (n, rest) := by
  have hwidth : (littleEndian width n).length = width := length_littleEndian width n
  unfold takeNumber?
  rw [if_pos (by rw [List.length_append]; omega), List.take_left' hwidth, List.drop_left' hwidth,
    ofLittleEndian_littleEndian h]

theorem eq_of_takeNumber? {width n : Nat} {bytes rest : List UInt8}
    (h : takeNumber? width bytes = some (n, rest)) :
    n < 256 ^ width ∧ bytes = littleEndian width n ++ rest := by
  unfold takeNumber? at h
  split at h
  · next hroom =>
    cases h
    have hwidth : (bytes.take width).length = width := by
      rw [List.length_take]
      omega
    obtain ⟨hlt, hdigits⟩ := littleEndian_ofLittleEndian hwidth
    exact ⟨hlt, by rw [hdigits, List.take_append_drop]⟩
  · cases h

/-! ## Texts -/

/-- The text at the front of a byte list, read after its length, and the bytes behind it. -/
def takeField? (bytes : List UInt8) : Option (String × List UInt8) :=
  (takeNumber? 8 bytes).bind fun (length, rest) =>
    if length ≤ rest.length then
      (Utf8.decode? (rest.take length)).map fun text => (text, rest.drop length)
    else none

theorem takeField?_field_append {text : String} (h : text.utf8ByteSize < 2 ^ 64)
    (rest : List UInt8) : takeField? (field text ++ rest) = some (text, rest) := by
  have hlength : (Utf8.encode text).length < 256 ^ 8 := h
  unfold takeField? field
  rw [List.append_assoc, takeNumber?_append hlength, Option.bind_some]
  dsimp only
  rw [if_pos (by rw [List.length_append]; omega), List.take_left, List.drop_left,
    Utf8.decode?_encode]
  rfl

theorem eq_of_takeField? {bytes rest : List UInt8} {text : String}
    (h : takeField? bytes = some (text, rest)) :
    text.utf8ByteSize < 2 ^ 64 ∧ bytes = field text ++ rest := by
  obtain ⟨⟨length, behind⟩, hnumber, htext⟩ := Option.bind_eq_some_iff.mp h
  obtain ⟨hlt, hbytes⟩ := eq_of_takeNumber? hnumber
  dsimp only at htext
  split at htext
  · next hroom =>
    obtain ⟨read, hread, hsame⟩ := Option.map_eq_some_iff.mp htext
    cases hsame
    have hencode := Utf8.encode_of_decode? hread
    have hlength : (Utf8.encode text).length = length := by
      rw [hencode, List.length_take]
      omega
    have htail : Utf8.encode text ++ behind.drop length = behind := by
      rw [hencode, List.take_append_drop]
    rw [← hlength] at hlt
    rw [field, hlength, List.append_assoc, htail]
    exact ⟨hlt, hbytes⟩
  · cases htext

theorem length_lt_of_takeField? {bytes rest : List UInt8} {text : String}
    (h : takeField? bytes = some (text, rest)) : rest.length < bytes.length := by
  rw [(eq_of_takeField? h).2, field, List.length_append, List.length_append, length_littleEndian]
  omega

/-- The texts that a byte list is made up of, each after its length. -/
def fields? (bytes : List UInt8) : Option (List String) :=
  if bytes = [] then some []
  else
    match _h : takeField? bytes with
    | none => none
    | some (text, rest) => (fields? rest).map (text :: ·)
termination_by bytes.length
decreasing_by exact length_lt_of_takeField? _h

theorem fields?_field_append {text : String} (h : text.utf8ByteSize < 2 ^ 64)
    (rest : List UInt8) : fields? (field text ++ rest) = (fields? rest).map (text :: ·) := by
  have hne : field text ++ rest ≠ [] := by
    unfold field littleEndian
    exact List.cons_ne_nil _ _
  rw [fields?, if_neg hne]
  split
  · next hnone =>
    rw [takeField?_field_append h] at hnone
    cases hnone
  · next hsome =>
    rw [takeField?_field_append h] at hsome
    cases hsome
    rfl

theorem fields?_flatMap_field {texts : List String}
    (h : ∀ text ∈ texts, text.utf8ByteSize < 2 ^ 64) :
    fields? (texts.flatMap field) = some texts := by
  induction texts with
  | nil => rw [List.flatMap_nil, fields?, if_pos rfl]
  | cons text rest ih =>
    obtain ⟨htext, hrest⟩ := List.forall_mem_cons.mp h
    rw [List.flatMap_cons, fields?_field_append htext, ih hrest]
    rfl

theorem eq_of_fields? {bytes : List UInt8} {texts : List String}
    (h : fields? bytes = some texts) :
    (∀ text ∈ texts, text.utf8ByteSize < 2 ^ 64) ∧ bytes = texts.flatMap field := by
  -- Each text takes up some bytes, so the induction is on the texts that were read.
  induction texts generalizing bytes with
  | nil =>
    rw [fields?] at h
    split at h
    · next hnil => exact ⟨fun _ hmem => (List.not_mem_nil hmem).elim, hnil⟩
    · split at h
      · cases h
      · obtain ⟨_, _, hsame⟩ := Option.map_eq_some_iff.mp h
        cases hsame
  | cons text texts ih =>
    rw [fields?] at h
    split at h
    · cases h
    · split at h
      · cases h
      · next hfirst =>
        obtain ⟨_, hrest, hsame⟩ := Option.map_eq_some_iff.mp h
        cases hsame
        obtain ⟨hfits, hbytes⟩ := eq_of_takeField? hfirst
        obtain ⟨hfitsRest, hbytesRest⟩ := ih hrest
        refine ⟨List.forall_mem_cons.mpr ⟨hfits, hfitsRest⟩, ?_⟩
        rw [hbytes, hbytesRest, List.flatMap_cons]

/-! ## Requests -/

/-- What the fingerprint covers of a request: its source, its variant and its include
flags. -/
abbrev Covered := String × UInt32 × List String

/-- The covered part of a request. -/
def covered (request : Request) : Covered :=
  (request.source, request.variant, request.includeFlags)

/-- Read the covered part of a request from its preimage. -/
def read? (bytes : List UInt8) : Option Covered :=
  (takeField? bytes).bind fun (source, rest) =>
    (takeNumber? 4 rest).bind fun (variant, rest) =>
      (fields? rest).map fun flags => (source, UInt32.ofNat variant, flags)

theorem read?_preimage {request : Request} (h : request.Fits) :
    read? (preimage request) = some (covered request) := by
  have hvariant : request.variant.toNat < 256 ^ 4 := request.variant.toNat_lt
  unfold read? preimage
  rw [List.append_assoc, takeField?_field_append h.1, Option.bind_some]
  dsimp only
  rw [takeNumber?_append hvariant, Option.bind_some]
  dsimp only
  rw [fields?_flatMap_field h.2, UInt32.ofNat_toNat]
  rfl

/-- The reader accepts the preimages of requests that fit, and no other bytes. -/
theorem read?_eq_some_iff {bytes : List UInt8} {request : Request} :
    read? bytes = some (covered request) ↔ request.Fits ∧ bytes = preimage request := by
  constructor
  · intro h
    obtain ⟨⟨source, rest⟩, hsource, h⟩ := Option.bind_eq_some_iff.mp h
    obtain ⟨⟨variant, behind⟩, hvariant, h⟩ := Option.bind_eq_some_iff.mp h
    obtain ⟨flags, hflags, hsame⟩ := Option.map_eq_some_iff.mp h
    obtain ⟨hfits, hbytes⟩ := eq_of_takeField? hsource
    obtain ⟨hlt, hrest⟩ := eq_of_takeNumber? hvariant
    obtain ⟨hfitsFlags, hbehind⟩ := eq_of_fields? hflags
    simp only [covered, Prod.mk.injEq] at hsame
    obtain ⟨rfl, hnumber, rfl⟩ := hsame
    have hdigits : request.variant.toNat = variant := by
      rw [← hnumber, UInt32.toNat_ofNat']
      exact Nat.mod_eq_of_lt hlt
    refine ⟨⟨hfits, hfitsFlags⟩, ?_⟩
    rw [preimage, hdigits, ← hbehind, List.append_assoc, ← hrest]
    exact hbytes
  · intro h
    obtain ⟨hfits, rfl⟩ := h
    exact read?_preimage hfits

/-! ## Injectivity -/

/-- With nothing after the fields their lengths tell themselves. -/
theorem field_inj {a b : String} (h : field a = field b) : a = b := by
  unfold field at h
  exact Utf8.encode_injective
    (List.append_inj h (by rw [length_littleEndian, length_littleEndian])).2

/-- The preimage determines all that the fingerprint is meant to cover. -/
theorem preimage_inj {r s : Request} (hr : r.Fits) (hs : s.Fits)
    (h : preimage r = preimage s) :
    r.source = s.source ∧ r.variant = s.variant ∧ r.includeFlags = s.includeFlags := by
  have hread := read?_preimage hr
  rw [h, read?_preimage hs] at hread
  simp only [covered, Option.some.injEq, Prod.mk.injEq] at hread
  obtain ⟨hsource, hvariant, hflags⟩ := hread
  exact ⟨hsource.symm, hvariant.symm, hflags.symm⟩

theorem preimage_eq_iff {r s : Request} (hr : r.Fits) (hs : s.Fits) :
    preimage r = preimage s ↔
      r.source = s.source ∧ r.variant = s.variant ∧ r.includeFlags = s.includeFlags := by
  constructor
  · exact preimage_inj hr hs
  · intro h
    obtain ⟨hsource, hvariant, hflags⟩ := h
    rw [preimage, preimage, hsource, hvariant, hflags]

/-- Two messages with one digest. -/
def Collide (a b : List UInt8) : Prop :=
  a ≠ b ∧ Sha256.digest a = Sha256.digest b

/-- The encoding of requests is unambiguous, whatever bytes the texts are made of and however
many flags there are.  The reader accepts a byte list exactly if it is the preimage of a
request that fits, and answers what the request consists of but for the kernel's name and
the device.  Two requests have one preimage exactly if they agree in all that, and one
fingerprint only then, unless the digest collides on their preimages. -/
theorem preimage_unambiguous :
    (∀ (bytes : List UInt8) (r : Request),
      read? bytes = some (r.source, r.variant, r.includeFlags) ↔
        r.Fits ∧ bytes = preimage r) ∧
    ∀ r s : Request, r.Fits → s.Fits →
      (preimage r = preimage s ↔
        r.source = s.source ∧ r.variant = s.variant ∧ r.includeFlags = s.includeFlags) ∧
      (ofRequest r = ofRequest s ↔
        (r.source = s.source ∧ r.variant = s.variant ∧ r.includeFlags = s.includeFlags) ∨
          Collide (preimage r) (preimage s)) := by
  refine ⟨fun bytes r => read?_eq_some_iff, ?_⟩
  intro r s hr hs
  have hpreimage := preimage_eq_iff hr hs
  refine ⟨hpreimage, ?_⟩
  rw [← hpreimage]
  constructor
  · intro hkey
    by_cases hsame : preimage r = preimage s
    · exact Or.inl hsame
    · exact Or.inr ⟨hsame, congrArg Fingerprint.bytes hkey⟩
  · intro h
    unfold ofRequest
    rcases h with hsame | hcollide
    · rw [hsame]
    · rw [hcollide.2]

/-- A flag whose bytes look like the end of one flag and the begin of the next. -/
theorem preimage_unambiguous_framed :
    let r : Request :=
      { name := "k", source := "", variant := 7, includeFlags := ["a", "b"], device := 0 }
    let s : Request :=
      { name := "m", source := "", variant := 7, device := 1
        includeFlags := ["a\x01\x00\x00\x00\x00\x00\x00\x00b"] }
    preimage r ≠ preimage s ∧ read? (preimage s) = some ("", 7, s.includeFlags) := by
  intro r s
  have hr : r.Fits := by decide +kernel
  have hs : s.Fits := by decide +kernel
  obtain ⟨hread, hsame⟩ := preimage_unambiguous
  refine ⟨?_, (hread (preimage s) s).mpr ⟨hs, rfl⟩⟩
  rw [Ne, (hsame r s hr hs).1]
  decide

end Fingerprint
end KernelJit
