import SchemaModels.Json.Decode
import SchemaModels.Proofs.Entries
import SchemaModels.Proofs.Traversal

/-!
# Reading back what was written

A value is *read back* if decoding its encoding gives the value itself. Not every value of a type
is: a decoder puts what it reads into a normal form, and only values in this form come back. The
statement about a format is therefore that whatever it decodes is read back (`Decoder.IsStable`),
so that decoding is the identity from the second time on.

For a record this comes in two halves. What all decoded records have in common is an invariant of
taking in members, whatever members there are and in any order (`invariant_of_record`). The members
that a record is written as lead from the start to the record itself; `Takes` follows them one by
one, where an absent member must be one whose value is the one at the start.
-/

namespace SchemaModels

namespace Decoder

variable {α β : Type}

/-- Decoding the encoding of the value gives the value. -/
def ReadsBack (decode : Decoder α) (encode : α → Json) (a : α) : Prop :=
  decode (encode a) = .ok a

/-- Whatever is decoded is read back. -/
def IsStable (decode : Decoder α) (encode : α → Json) : Prop :=
  ∀ (v : Json) (a : α), decode v = .ok a → ReadsBack decode encode a

variable {decode : Decoder α} {encode : α → Json}

/-- A format that reads back every value. -/
theorem IsStable.of_forall (h : ∀ a, ReadsBack decode encode a) : IsStable decode encode :=
  fun _ a _ => h a

/-! ## Numbers -/

theorem le_of_natUpTo {max : Nat} {name : String} {v : Json} {n : Nat}
    (h : natUpTo max name v = .ok n) : n ≤ max := by
  unfold natUpTo at h
  split at h
  · split at h
    · next hrange =>
      cases h
      omega
    · cases h
  · cases h

theorem natUpTo_of_le {max n : Nat} (name : String) (h : n ≤ max) :
    natUpTo max name (.int n) = .ok n := by
  rw [natUpTo, if_pos ⟨by omega, by omega⟩, Int.toNat_natCast]

/-! ## Lists and members -/

/-- A traversal of encodings gives the values. -/
theorem mapM_map_eq_ok {γ : Type} {f : γ → Except DecodeError α} {g : α → γ} :
    ∀ {l : List α}, (∀ a ∈ l, f (g a) = .ok a) → (l.map g).mapM f = .ok l := by
  intro l
  induction l with
  | nil => intro _; rfl
  | cons a l ih =>
    intro h
    rw [List.map_cons]
    exact mapM_cons_eq_ok.mpr
      ⟨a, l, h a List.mem_cons_self, ih fun b hb => h b (List.mem_cons_of_mem a hb), rfl⟩

theorem list_map {l : List α} (h : ∀ a ∈ l, ReadsBack decode encode a) :
    list decode (.arr (l.map encode)) = .ok l :=
  mapM_map_eq_ok h

theorem members_map {es : List (String × α)} (h : ∀ e ∈ es, ReadsBack decode encode e.2) :
    members decode (.obj (es.map fun e => (e.1, encode e.2))) = .ok es := by
  refine mapM_map_eq_ok fun e he => ?_
  show (decode (encode e.2)).map (e.1, ·) = .ok e
  rw [h e he]
  rfl

/-- The items of a decoded list are read back. -/
theorem IsStable.forall_of_list (h : IsStable decode encode) {v : Json} {l : List α}
    (hl : list decode v = .ok l) : ∀ a ∈ l, ReadsBack decode encode a := by
  unfold list at hl
  split at hl
  · intro a ha
    obtain ⟨item, _, hitem⟩ := exists_of_mem_mapM hl a ha
    exact h item a hitem
  · cases hl

/-- The values of decoded members are read back. -/
theorem IsStable.forall_of_members (h : IsStable decode encode) {v : Json}
    {es : List (String × α)} (hes : members decode v = .ok es) :
    ∀ e ∈ es, ReadsBack decode encode e.2 := by
  unfold members at hes
  split at hes
  · intro e he
    obtain ⟨m, _, hm⟩ := exists_of_mem_mapM hes e he
    cases hd : decode m.2 with
    | error err => rw [hd] at hm; cases hm
    | ok a =>
      rw [hd] at hm
      cases hm
      exact h m.2 a hd
  · cases hes

/-- An optional value that is there was decoded from something other than null. -/
theorem exists_of_optional {v : Json} {x : Option α} (h : optional decode v = .ok x) {a : α}
    (hx : x = some a) : v ≠ .null ∧ decode v = .ok a := by
  subst hx
  unfold optional at h
  split at h
  · cases h
  · next hne =>
    cases hd : decode v with
    | error err => rw [hd] at h; cases h
    | ok b =>
      rw [hd] at h
      cases h
      exact ⟨hne, rfl⟩

/-- A value that is not written as null is read back as an optional one. -/
theorem optional_of_readsBack {a : α} (hne : encode a ≠ .null) (h : ReadsBack decode encode a) :
    optional decode (encode a) = .ok (some a) := by
  unfold optional
  split
  · next hnull => exact absurd hnull hne
  · rw [h]
    rfl

/-! ## Records -/

variable {set : String → Json → α → Except DecodeError α}

/-- What holds at the start and is kept by taking in a member holds of every decoded record. -/
theorem invariant_of_record {P : α → Prop} {type : String} {required : List String} {start : α}
    (hstart : P start) (hset : ∀ key v a b, P a → set key v a = .ok b → P b) {v : Json} {a : α}
    (h : record type required start set v = .ok a) : P a := by
  unfold record at h
  split at h
  · next ms =>
    obtain ⟨b, hb, hrest⟩ := bind_eq_ok.mp h
    have hab : a = b := by
      split at hrest
      · cases hrest
      · cases hrest; rfl
    subst hab
    -- the members are taken in from the left, each into a record that has the invariant
    have hfold : ∀ (ms : List (String × Json)) (s : α), P s →
        ms.foldlM (fun a m => set m.1 m.2 a) s = .ok a → P a := by
      intro ms
      induction ms with
      | nil => intro s hs h; cases h; exact hs
      | cons m ms ih =>
        intro s hs h
        rw [List.foldlM_cons] at h
        obtain ⟨t, ht, hrest⟩ := bind_eq_ok.mp h
        exact ih t (hset m.1 m.2 s t hs ht) hrest
    exact hfold ms start hstart hb
  · cases h

/-- Taking in the members one after the other leads from the one state to the other. -/
def Takes (set : String → Json → α → Except DecodeError α) (s : α) (ms : List (String × Json))
    (t : α) : Prop :=
  ms.foldlM (fun a m => set m.1 m.2 a) s = .ok t

namespace Takes

variable {s t u : α} {key : String}

theorem nil : Takes set s [] s := rfl

theorem cons {v : Json} {ms : List (String × Json)} (h : set key v s = .ok t)
    (hms : Takes set t ms u) : Takes set s ((key, v) :: ms) u := by
  rw [Takes, List.foldlM_cons, bind_eq_ok]
  exact ⟨t, h, hms⟩

theorem append {ms ns : List (String × Json)} (hms : Takes set s ms t) (hns : Takes set t ns u) :
    Takes set s (ms ++ ns) u := by
  rw [Takes, List.foldlM_append, bind_eq_ok]
  exact ⟨t, hms, hns⟩

/-- A member that is left out if its value is none, which is what it is before. -/
theorem optional {x : Option β} {write : β → Json} (put : Option β → α)
    (h : ∀ b, x = some b → set key (write b) (put none) = .ok (put (some b))) :
    Takes set (put none) (Json.optionalMember key (x.map write)) (put x) := by
  cases x with
  | none => exact nil
  | some b => exact cons (h b rfl) nil

/-- A member that is left out if its value is empty, which is what it is before. -/
theorem skippable {b : Bool} {v : Json} (hskip : b = true → s = t)
    (htake : b = false → set key v s = .ok t) :
    Takes set s (Json.optionalMember key (if b then none else some v)) t := by
  cases b with
  | true => rw [hskip rfl]; exact nil
  | false => exact cons (htake rfl) nil

end Takes

/-- A record is read if all required members are there and all members are taken in. -/
theorem record_of_takes {type : String} {required : List String} {start a : α}
    {ms : List (String × Json)} (hrequired : ∀ key ∈ required, ms.any (·.1 == key) = true)
    (h : Takes set start ms a) : record type required start set (.obj ms) = .ok a := by
  have hnone : required.find? (fun key => !ms.any (·.1 == key)) = none := by
    rw [List.find?_eq_none]
    intro key hkey
    rw [hrequired key hkey]
    decide
  rw [record, bind_eq_ok]
  exact ⟨a, h, by rw [hnone]⟩

end Decoder
end SchemaModels
