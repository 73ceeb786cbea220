import TypedQuery.Proofs.Response.Decoding
import TypedQuery.Proofs.Schema.Reachable

/-!
# Replies with their keys in another order

Decoding does not see the order of the keys of an object, nor the keys that the type of the object
does not know. Two replies that differ in nothing else are decoded alike: to the same instances, or
to the same error.

Which keys count depends on the type of an object, and the object itself names it. So values are
compared where an object of some type is expected (`Akin`): they choose the same type, and hold akin
values for each of its fields. What is kept raw may only have its keys in another order
(`Reordered`).

Both replies are read side by side. Whatever looks at a value sees the same in both, so they fail
together and with one error; fields are read in the order of their declaration, so this is also the
first error in both.
-/

namespace TypedQuery

open Checked Json

/-! ## Values up to the order of keys -/

/-- Values that have the keys of their objects in different orders, but are the same otherwise. -/
inductive Json.Reordered : Json → Json → Prop
  | scalar {value : Json} (noList : value.isList = false) (noObject : value.isObject = false) :
      Reordered value value
  | list {as bs : List Json} (items : List.Forall₂ Reordered as bs) :
      Reordered (.list as) (.list bs)
  | object {as bs : List (String × Json)}
      (members : ∀ key, Option.Rel Reordered (Table.get? key as) (Table.get? key bs)) :
      Reordered (.object as) (.object bs)

/-- A value is a reordering of itself. -/
theorem Json.Reordered.refl (value : Json) : value.Reordered value := by
  induction value using size_induction with
  | step value ih =>
    cases value with
    | list items =>
      exact .list (List.forall₂_same.mpr fun item hitem => ih item (sizeOf_lt_of_mem hitem))
    | object members =>
      refine .object fun key => ?_
      cases hget : Table.get? key members with
      | none => exact .none
      | some part => exact .some (ih part (sizeOf_lt_of_get?_eq_some hget))
    | _ => exact .scalar rfl rfl

/-- The members of an object may stand in any order. -/
theorem Json.reordered_of_perm {as bs : List (String × Json)} (perm : as.Perm bs)
    (distinct : (Table.keys as).Nodup) : (Json.object as).Reordered (.object bs) := by
  have otherDistinct : (Table.keys bs).Nodup := (perm.map Prod.fst).nodup_iff.mp distinct
  refine .object fun key => ?_
  have hget : Table.get? key as = Table.get? key bs := by
    refine Option.ext fun value => ?_
    rw [Table.get?_eq_some_iff distinct, Table.get?_eq_some_iff otherDistinct, perm.mem_iff]
  rw [hget]
  cases Table.get? key bs with
  | none => exact .none
  | some value => exact .some (.refl value)

mutual

/-- Values of fields that are the same up to the order of keys in what they hold raw. -/
inductive FieldValue.Reordered : FieldValue → FieldValue → Prop
  | unset : FieldValue.Reordered .unset .unset
  | raw {a b : Json} (h : a.Reordered b) : FieldValue.Reordered (.raw a) (.raw b)
  | object {a b : Instance} (h : Instance.Reordered a b) :
      FieldValue.Reordered (.object a) (.object b)
  | list {as bs : List FieldValue} (h : List.Forall₂ FieldValue.Reordered as bs) :
      FieldValue.Reordered (.list as) (.list bs)

/-- Instances that are the same up to the order of keys in what they hold raw. -/
inductive Instance.Reordered : Instance → Instance → Prop
  | mk {a b : Instance} (type : a.type = b.type)
      (labels : a.values.map Prod.fst = b.values.map Prod.fst)
      (values : List.Forall₂ FieldValue.Reordered (a.values.map Prod.snd) (b.values.map Prod.snd))
      (changed : a.changed = b.changed) : Instance.Reordered a b

end

/-- Results with the same roots, and instances under them that are the same up to the order of keys
in what they hold raw. -/
def Results.Reordered (results other : Results) : Prop :=
  List.Forall₂ (fun group otherGroup => group.1 = otherGroup.1 ∧
    List.Forall₂ Instance.Reordered group.2 otherGroup.2) results.groups other.groups

namespace Registry

variable {registry : Registry} {base owner : ObjectType} {field : Field} {a b : Json}

/-! ## Replies that say the same -/

/-- The type of the objects that a field holds, if it refers to a registered one. -/
def targetOf (registry : Registry) (field : Field) : Option ObjectType :=
  field.referencedType?.bind registry.type?

mutual

/-- Values that say the same where an object of a type is expected, or where none is. Objects there
choose the same type and say the same for each of its fields; their other keys do not matter. -/
inductive Akin (registry : Registry) : Option ObjectType → Json → Json → Prop
  | reordered {expected : Option ObjectType} {a b : Json} (h : a.Reordered b) :
      Akin registry expected a b
  | list {base : ObjectType} {as bs : List Json} (length : as.length = bs.length)
      (items : ∀ pair ∈ as.zip bs, Akin registry (some base) pair.1 pair.2) :
      Akin registry (some base) (.list as) (.list bs)
  | object {base : ObjectType} {as bs : List (String × Json)}
      (named : Option.Rel Json.Reordered (Table.get? discriminator as)
        (Table.get? discriminator bs))
      (fields : ∀ type, registry.Resolves base (Table.get? discriminator as) type →
        ∀ field ∈ type.fields, AkinField registry field (Table.get? field.wireQueryName as)
          (Table.get? field.wireQueryName bs)) :
      Akin registry (some base) (.object as) (.object bs)

/-- What two objects hold for a field, if it says the same. -/
inductive AkinField (registry : Registry) : Field → Option Json → Option Json → Prop
  | absent {field : Field} : AkinField registry field none none
  | present {field : Field} {a b : Json} (akin : Akin registry (registry.targetOf field) a b) :
      AkinField registry field (some a) (some b)

end

/-- Payloads that report the same errors and have the same roots in the same order, with values that
say the same. -/
structure AkinPayloads (registry : Registry) (payload other : List (String × Json)) : Prop where
  errors : Table.get? "errors" payload = Table.get? "errors" other
  roots : Alike
    (List.Forall₂ fun entry otherEntry => entry.1 = otherEntry.1 ∧
      registry.Akin (registry.typeOfRoot? entry.1) entry.2 otherEntry.2)
    (rootsOf (Table.get? "data" payload)) (rootsOf (Table.get? "data" other))

/-- Akin values are the same scalar, or both are lists, or both are objects. -/
theorem Akin.shapes {expected : Option ObjectType} (akin : registry.Akin expected a b) :
    (a = b ∧ a.isList = false ∧ a.isObject = false) ∨ (∃ as bs, a = .list as ∧ b = .list bs) ∨
      ∃ as bs, a = .object as ∧ b = .object bs := by
  cases akin with
  | reordered h =>
    cases h with
    | scalar noList noObject => exact .inl ⟨rfl, noList, noObject⟩
    | list => exact .inr (.inl ⟨_, _, rfl, rfl⟩)
    | object => exact .inr (.inr ⟨_, _, rfl, rfl⟩)
  | list => exact .inr (.inl ⟨_, _, rfl, rfl⟩)
  | object => exact .inr (.inr ⟨_, _, rfl, rfl⟩)

/-- Where no object of a type is expected, every key counts. -/
theorem Akin.reordered_of_none (akin : registry.Akin none a b) : a.Reordered b := by
  cases akin with
  | reordered h => exact h

/-- Akin lists have akin items. -/
theorem Akin.forall₂ {as bs : List Json} (akin : registry.Akin (some base) (.list as) (.list bs)) :
    List.Forall₂ (registry.Akin (some base)) as bs := by
  cases akin with
  | reordered h =>
    cases h with
    | scalar noList => cases noList
    | list items => exact items.imp fun _ _ h => .reordered h
  | list length items => exact List.forall₂_iff_zip.mpr ⟨length, fun hpair => items _ hpair⟩

/-- Akin objects have the same discriminator, up to the order of keys in it. -/
theorem Akin.named {as bs : List (String × Json)}
    (akin : registry.Akin (some base) (.object as) (.object bs)) :
    Option.Rel Json.Reordered (Table.get? discriminator as) (Table.get? discriminator bs) := by
  cases akin with
  | reordered h =>
    cases h with
    | scalar _ noObject => cases noObject
    | object members => exact members discriminator
  | object named => exact named

/-- Akin objects say the same for each field of the type that they choose. -/
theorem Akin.fields {as bs : List (String × Json)} {type : ObjectType}
    (akin : registry.Akin (some base) (.object as) (.object bs))
    (resolves : registry.Resolves base (Table.get? discriminator as) type)
    (hfield : field ∈ type.fields) :
    registry.AkinField field (Table.get? field.wireQueryName as)
      (Table.get? field.wireQueryName bs) := by
  cases akin with
  | reordered h =>
    cases h with
    | scalar _ noObject => cases noObject
    | object members =>
      -- If only the order of keys differs, each key answers alike, so each wire name does.
      have hmember := members field.wireQueryName
      generalize Table.get? field.wireQueryName as = a?, Table.get? field.wireQueryName bs = b?
        at hmember
      cases hmember with
      | none => exact .absent
      | some h => exact .present (.reordered h)
  | object _ fields => exact fields type resolves field hfield

/-! ## Reading side by side -/

/-- Reordered discriminators choose the same type, or are refused alike. -/
theorem variant_eq_of_rel {as bs : List (String × Json)}
    (named : Option.Rel Json.Reordered (Table.get? discriminator as)
      (Table.get? discriminator bs)) : registry.variant base as = registry.variant base bs := by
  rw [variant, variant]
  generalize Table.get? discriminator as = a?, Table.get? discriminator bs = b? at named
  cases named with
  | none => rfl
  | some h => cases h <;> rfl

/-- Values of one shape are read on with the type that the field refers to, or refused alike. -/
theorem alike_referenced {f g : Option ObjectType → Except DecodeError FieldValue}
    (same : registry.referenced owner field a = registry.referenced owner field b)
    (next : Alike FieldValue.Reordered (f (registry.targetOf field))
      (g (registry.targetOf field))) :
    Alike FieldValue.Reordered (registry.referenced owner field a >>= f)
      (registry.referenced owner field b >>= g) := by
  rw [← same]
  cases hexpected : registry.referenced owner field a with
  | error error => exact .error error
  | ok expected =>
    -- Whatever comes out of the check of the shape, its type is the one that akinness is said of.
    have htarget : expected = registry.targetOf field := by
      cases expected with
      | none =>
        obtain ⟨-, unreferenced⟩ := referenced_eq_ok_none_iff.mp hexpected
        rw [targetOf, unreferenced, Option.bind_none]
      | some type =>
        obtain ⟨-, name, target, found⟩ := referenced_eq_ok_some_iff.mp hexpected
        rw [targetOf, FieldTraits.referencedType?, target, Option.bind_some, found]
    rw [htarget]
    exact next

/-- A scalar is held as it is. -/
theorem Reads.reordered_self {held : FieldValue} (read : registry.Reads field a held)
    (noList : a.isList = false) (noObject : a.isObject = false) : held.Reordered held := by
  cases read with
  | null => exact .raw (.refl _)
  | raw => exact .raw (.refl _)
  | object _ _ _ read => exact absurd read (instantiate_ne_ok noObject)
  | list => cases noList

/-- The default of a field is the same on both sides. -/
theorem absentValue_reordered (field : Field) :
    (absentValue field).Reordered (absentValue field) := by
  rw [absentValue]
  split
  · exact .raw (.refl _)
  · exact .unset

/-- The objects in a value that are read as instances are read alike. -/
def AlikeWithin (registry : Registry) (a : Json) : Prop :=
  ∀ {base : ObjectType} {part other : Json}, sizeOf part ≤ sizeOf a →
    registry.Akin (some base) part other →
    Alike Instance.Reordered (registry.instantiate base part) (registry.instantiate base other)

/-- Akin items of a collection are read alike. -/
theorem alike_readItem (akin : registry.Akin (some base) a b) (within : registry.AlikeWithin a) :
    Alike FieldValue.Reordered (registry.readItem owner field base a)
      (registry.readItem owner field base b) := by
  obtain ⟨rfl, noList, noObject⟩ | ⟨as, bs, rfl, rfl⟩ | ⟨as, bs, rfl, rfl⟩ := akin.shapes
  · refine .self _ fun held h => ?_
    cases readItem_eq_ok_iff.mp h with
    | null => exact .raw (.refl _)
    | object read => exact absurd read (instantiate_ne_ok noObject)
  · rw [readItem, readItem]
    · exact .error _
    all_goals simp
  · rw [readItem, readItem]
    exact (within (Nat.le_refl _) akin).bind fun _ _ h => .ok (.object h)

/-- Akin values of a field are read alike. -/
theorem alike_readValue (akin : registry.Akin (registry.targetOf field) a b)
    (within : registry.AlikeWithin a) :
    Alike FieldValue.Reordered (registry.readValue owner field a)
      (registry.readValue owner field b) := by
  -- Akin values have the same shape, so what a field asks of a shape cannot tell them apart.
  obtain ⟨rfl, noList, noObject⟩ | ⟨as, bs, rfl, rfl⟩ | ⟨as, bs, rfl, rfl⟩ := akin.shapes
  · exact .self _ fun held h => (readValue_eq_ok_iff.mp h).reordered_self noList noObject
  · rw [readValue, readValue]
    refine alike_referenced rfl ?_
    generalize registry.targetOf field = expected at akin
    cases expected with
    | none => exact .ok (.raw akin.reordered_of_none)
    | some base =>
      dsimp only
      split
      · rw [readItems_eq_mapM, readItems_eq_mapM]
        refine (Alike.mapM ?_).bind fun _ _ h => .ok (.list h)
        refine forall₂_imp_of_mem akin.forall₂ fun item hitem other _ hakin => ?_
        refine alike_readItem hakin fun hsize hpart => ?_
        exact within (Nat.le_trans hsize (Nat.le_of_lt (sizeOf_lt_of_mem hitem))) hpart
      · exact .error _
  · rw [readValue, readValue]
    refine alike_referenced rfl ?_
    generalize registry.targetOf field = expected at akin
    cases expected with
    | none => exact .ok (.raw akin.reordered_of_none)
    | some base => exact (within (Nat.le_refl _) akin).bind fun _ _ h => .ok (.object h)

/-- Akin values are read alike where an object of a type is expected. -/
theorem alike_instantiate (akin : registry.Akin (some base) a b) :
    Alike Instance.Reordered (registry.instantiate base a) (registry.instantiate base b) := by
  induction a using size_induction generalizing base b with
  | step a ih =>
    obtain ⟨rfl, -, noObject⟩ | ⟨as, bs, rfl, rfl⟩ | ⟨as, bs, rfl, rfl⟩ := akin.shapes
    · exact .self _ fun object h => absurd h (instantiate_ne_ok noObject)
    · exact .error _
    -- Both objects choose the same type, so the same fields are read in the same order on both
    -- sides.
    · rw [instantiate, instantiate, assemble, assemble, ← variant_eq_of_rel akin.named]
      refine (Alike.self _ fun type h => ⟨rfl, variant_eq_ok_iff.mp h⟩).bind
        (r := fun type other => type = other ∧
          registry.Resolves base (Table.get? discriminator as) type) ?_
      rintro type _ ⟨rfl, resolves⟩
      refine (Alike.mapM (r := fun entry other : String × FieldValue =>
        entry.1 = other.1 ∧ entry.2.Reordered other.2) ?_).bind fun values others h => ?_
      · rw [List.forall₂_same]
        intro field hfield
        refine Alike.bind (r := FieldValue.Reordered) ?_ fun _ _ h => .ok ⟨rfl, h⟩
        rw [readMember_eq, readMember_eq]
        -- Only members under wire names of the type are read; akinness says nothing of others.
        have hakin := akin.fields resolves hfield
        generalize ha : Table.get? field.wireQueryName as = a?,
          Table.get? field.wireQueryName bs = b? at hakin
        cases hakin with
        | absent => exact .ok (absentValue_reordered field)
        | present hakin =>
          refine alike_readValue hakin fun hsize hpart => ?_
          exact ih _ (Nat.lt_of_le_of_lt hsize (sizeOf_lt_of_get?_eq_some ha)) hpart
      · have hlabels : others.map Prod.fst = values.map Prod.fst :=
          map_eq_of_forall₂ h fun _ _ h => h.1.symm
        have hvalues : List.Forall₂ FieldValue.Reordered (values.map Prod.snd)
            (others.map Prod.snd) := by
          rw [List.forall₂_map_left_iff, List.forall₂_map_right_iff]
          exact h.imp fun _ _ h => h.2
        exact .ok (.mk rfl hlabels.symm hvalues rfl)

/-! ## Whole payloads -/

/-- The same items of akin values under a root are read as instances. -/
theorem Akin.rootItems (akin : registry.Akin (some base) a b) :
    List.Forall₂ (registry.Akin (some base)) (rootItems a) (rootItems b) := by
  obtain ⟨rfl, noList, -⟩ | ⟨as, bs, rfl, rfl⟩ | ⟨as, bs, rfl, rfl⟩ := akin.shapes
  · exact List.forall₂_same.mpr fun item _ => .reordered (.refl item)
  · refine List.rel_filter (fun item other hitem => ?_) akin.forall₂
    obtain ⟨rfl, -⟩ | ⟨_, _, rfl, rfl⟩ | ⟨_, _, rfl, rfl⟩ := hitem.shapes <;> rfl
  · exact .cons akin .nil

/-- Akin values under the same roots are decoded alike. -/
theorem alike_decodeRoots {data other : List (String × Json)}
    (akin : List.Forall₂ (fun entry otherEntry => entry.1 = otherEntry.1 ∧
      registry.Akin (registry.typeOfRoot? entry.1) entry.2 otherEntry.2) data other) :
    Alike (List.Forall₂ fun group otherGroup => group.1 = otherGroup.1 ∧
      List.Forall₂ Instance.Reordered group.2 otherGroup.2)
      (registry.decodeRoots data) (registry.decodeRoots other) := by
  refine Alike.mapM (akin.imp ?_)
  rintro ⟨root, value⟩ ⟨_, otherValue⟩ ⟨rfl, hakin⟩
  dsimp only at hakin ⊢
  cases hroot : registry.typeOfRoot? root with
  | none => exact .error _
  | some base =>
    rw [hroot] at hakin
    dsimp only
    rw [instantiateRoot_eq_mapM, instantiateRoot_eq_mapM]
    exact (Alike.mapM (hakin.rootItems.imp fun _ _ => alike_instantiate)).bind
      fun _ _ h => .ok ⟨rfl, h⟩

/-- Payloads that say the same are decoded to the same results, up to the order of keys in what is
kept raw, or refused with the same error. -/
theorem decode_alike {payload other : List (String × Json)}
    (distinct : (Json.object payload).hasDistinctKeys = true)
    (otherDistinct : (Json.object other).hasDistinctKeys = true)
    (akin : registry.AkinPayloads payload other) :
    Alike Results.Reordered (registry.decode (.object payload))
      (registry.decode (.object other)) := by
  rw [decode_object_eq_of_distinct distinct, decode_object_eq_of_distinct otherDistinct,
    ← akin.errors]
  refine (Alike.self _ fun _ _ => rfl).bind (r := Eq) ?_
  rintro errors _ rfl
  cases errors.getD [] with
  | nil => exact (akin.roots.bind fun _ _ => alike_decodeRoots).map fun _ _ h => h
  | cons error rest => exact .error _

/-- A label in two languages. -/
def mapsLabel : List (String × Json) := [("en", .string "maps"), ("de", .string "Karten")]

/-- An atlas as a reply holds it. -/
def atlasObject : Json := .object [("__typename", .string "Atlas"), ("mapScale", .ofInt 5)]

/-- The same atlas with its keys in another order, and with a key that atlases do not have. -/
def shuffledAtlas : Json :=
  .object [("mapScale", .ofInt 5), ("pages", .ofInt 80), ("__typename", .string "Atlas")]

/-- A reply with one shelf, which holds an atlas and has a gap. -/
def filledShelf : List (String × Json) :=
  [("data", .object [("shelves", .list [.object [
    ("label", .list [.object mapsLabel]), ("books", .list [atlasObject, .null])]])])]

/-- The same reply with other orders of keys, also in the label, and with unknown keys. -/
def shuffledShelf : List (String × Json) :=
  [("cost", .ofInt 3), ("data", .object [("shelves", .list [.object [
    ("owner", .null), ("books", .list [shuffledAtlas, .null]),
    ("label", .list [.object mapsLabel.reverse])]])])]

/-- The two replies are decoded to the same shelf, with the label of one in another order. -/
theorem filledShelf_decode_alike :
    ∃ results other, library.decode (.object filledShelf) = .ok results ∧
      library.decode (.object shuffledShelf) = .ok other ∧ results.Reordered other := by
  have hlabel : (Json.list [.object mapsLabel]).Reordered (.list [.object mapsLabel.reverse]) :=
    .list (.cons (reordered_of_perm mapsLabel.reverse_perm.symm (by decide)) .nil)
  -- The atlas names its own type, which is a subtype of the one expected.
  have hatlas : library.Akin (some (libraryType "book")) atlasObject shuffledAtlas := by
    refine .object (.some (.refl _)) fun type resolves => ?_
    obtain rfl : libraryType "atlas" = type := Except.ok.inj (variant_eq_ok_iff.mpr resolves)
    exact List.forall_mem_cons.mpr ⟨.absent, List.forall_mem_singleton.mpr
      (.present (.reordered (.refl _)))⟩
  have hbooks : library.Akin (some (libraryType "book")) (.list [atlasObject, .null])
      (.list [shuffledAtlas, .null]) :=
    .list rfl (List.forall_mem_cons.mpr ⟨hatlas, List.forall_mem_singleton.mpr
      (.reordered (.refl _))⟩)
  have hshelves : library.AkinPayloads filledShelf shuffledShelf := by
    refine ⟨rfl, .ok (.cons ⟨rfl, ?_⟩ .nil)⟩
    show library.Akin (some (libraryType "shelf")) _ _
    refine .list rfl (List.forall_mem_singleton.mpr (.object .none fun type resolves => ?_))
    obtain rfl : libraryType "shelf" = type := Except.ok.inj (variant_eq_ok_iff.mpr resolves)
    exact List.forall_mem_cons.mpr ⟨.present (.reordered hlabel), List.forall_mem_cons.mpr
      ⟨.absent, List.forall_mem_cons.mpr ⟨.present hbooks, List.forall_mem_singleton.mpr
        .absent⟩⟩⟩
  refine ⟨_, _, rfl, rfl, ?_⟩
  exact alike_ok_iff.mp (decode_alike (by decide) (by decide) hshelves)

end Registry

end TypedQuery
