/-
Documents that differ in the blanks around their texts.

A reader of records takes texts as they are written, and what is made of them afterwards does not
look at the blanks around them. So two documents with the same parts, where the texts of one are
those of the other with blanks put around them, are read to records that differ in such blanks only.
What a reader makes of both is related by one rule for each way of reading:

* `Document.PadsTo` — the same document with blanks around its texts;
* `Document.Respects` — a reader gives related results for both;
* `respects_text?`, `respects_natural?`, `Respects.optional?`, `Respects.list?` — the readers for
  the content of fields;
* `fields?_padsTo`, `Fields.PadsTo.read` — the fields of a record, and one of them.
-/
import Mathlib.Data.List.Forall2
import GatewayProbe.Json.Record
import GatewayProbe.Proofs.Text.Trimming

namespace GatewayProbe

/-- The same document with blanks put around any of its texts. Keys stay what they are, and neither
keys nor texts need be spelled alike. -/
inductive Document.PadsTo : Document → Document → Prop
  | refl (doc : Document) : PadsTo doc doc
  | text {ps qs : List Piece} {s t : String} (plain : Document.textOf? ps = some s)
      (wide : Document.textOf? qs = some t) (padded : Text.Padded s t) :
      PadsTo (.text ps) (.text qs)
  | array {xs ys : List Document} (items : List.Forall₂ PadsTo xs ys) :
      PadsTo (.array xs) (.array ys)
  | object {xs ys : List (List Piece × Document)}
      (keys : xs.map (fun x => Document.textOf? x.1) = ys.map fun y => Document.textOf? y.1)
      (values : List.Forall₂ PadsTo (xs.map Prod.snd) (ys.map Prod.snd)) :
      PadsTo (.object xs) (.object ys)

/-! ### Results that are related -/

section Results

variable {α β γ δ : Type} {R : α → β → Prop} {S : γ → δ → Prop}

theorem rel_refl {R : α → α → Prop} (h : ∀ a, R a a) (x : Option α) : Option.Rel R x x := by
  cases x with
  | none => exact .none
  | some a => exact .some (h a)

theorem rel_bind {x : Option α} {y : Option β} {f : α → Option γ} {g : β → Option δ}
    (h : Option.Rel R x y) (hnext : ∀ a b, R a b → Option.Rel S (f a) (g b)) :
    Option.Rel S (x.bind f) (y.bind g) := by
  cases h with
  | none => exact .none
  | some hab => exact hnext _ _ hab

theorem rel_map {x : Option α} {y : Option β} {f : α → γ} {g : β → δ} (h : Option.Rel R x y)
    (hnext : ∀ a b, R a b → S (f a) (g b)) : Option.Rel S (x.map f) (y.map g) := by
  cases h with
  | none => exact .none
  | some hab => exact .some (hnext _ _ hab)

theorem rel_mapM {xs : List α} {ys : List β} {f : α → Option γ} {g : β → Option δ}
    (h : List.Forall₂ (fun x y => Option.Rel S (f x) (g y)) xs ys) :
    Option.Rel (List.Forall₂ S) (xs.mapM f) (ys.mapM g) := by
  induction h with
  | nil => exact .some .nil
  | cons hfirst _ ih =>
    rw [List.mapM_cons, List.mapM_cons]
    exact rel_bind hfirst fun _ _ hab => rel_bind ih fun _ _ hrest => .some (.cons hab hrest)

end Results

namespace Document

/-- The reader gives related results for documents that differ in blanks around texts. -/
def Respects {α : Type} (R : α → α → Prop) (read : Document → Option α) : Prop :=
  ∀ doc other : Document, doc.PadsTo other → Option.Rel R (read doc) (read other)

/-! ### The content of fields -/

/-- Of two texts that differ in blanks around them the same is left. -/
theorem respects_text? : Respects (fun s t => Text.nonBlank? s = Text.nonBlank? t) text? := by
  intro doc other h
  cases h with
  | refl doc =>
    refine rel_refl (fun s => ?_) doc.text?
    rfl
  | text plain wide padded =>
    rw [text?, text?, plain, wide]
    exact .some padded.nonBlank?_eq
  | array | object => exact .none

theorem respects_natural? (bound : Nat) : Respects Eq (natural? bound) := by
  intro doc other h
  cases h with
  | refl doc => exact rel_refl (fun _ => rfl) (doc.natural? bound)
  | text | array | object => exact .none

section Readers

variable {α : Type} {R : α → α → Prop} {content : Document → Option α}

theorem Respects.optional? (h : Respects R content) :
    Respects (Option.Rel R) (Document.optional? content) := by
  intro doc other hpads
  have hmap := rel_map (h doc other hpads) (S := Option.Rel R) (f := some) (g := some)
    fun _ _ hab => .some hab
  cases hpads with
  | refl doc =>
    cases doc with
    | null => exact .some .none
    | bool | number | text | array | object => exact hmap
  | text | array | object => exact hmap

theorem Respects.list? (h : Respects R content) :
    Respects (List.Forall₂ R) (Document.list? content) := by
  intro doc other hpads
  cases hpads with
  | refl doc =>
    cases doc with
    | array items => exact rel_mapM (List.forall₂_same.mpr fun x _ => h x x (.refl x))
    | null | bool | number | text | object => exact .none
  | array items => exact rel_mapM (items.imp fun x y hxy => h x y hxy)
  | text | object => exact .none

end Readers

end Document

/-! ### Fields of records -/

/-- Fields under the same keys, whose values differ in blanks around texts. -/
def Fields.PadsTo (known other : Fields) : Prop :=
  List.Forall₂ (fun a b => a.1 = b.1 ∧ a.2.PadsTo b.2) known other

theorem Fields.PadsTo.filter {known other : Fields} (h : known.PadsTo other)
    (keep : String → Bool) :
    Fields.PadsTo (known.filter fun entry => keep entry.1)
      (other.filter fun entry => keep entry.1) :=
  List.rel_filter (fun a b hab => by simp only [hab.1]) h

namespace Document

variable {doc other : Document}

theorem named_padsTo {xs ys : List (List Piece × Document)}
    (keys : xs.map (fun x => textOf? x.1) = ys.map fun y => textOf? y.1)
    (values : List.Forall₂ PadsTo (xs.map Prod.snd) (ys.map Prod.snd)) :
    Option.Rel Fields.PadsTo
      (xs.mapM fun entry => (textOf? entry.1).map fun key => (key, entry.2))
      (ys.mapM fun entry => (textOf? entry.1).map fun key => (key, entry.2)) := by
  refine rel_mapM ?_
  induction xs generalizing ys with
  | nil =>
    obtain rfl := List.map_eq_nil_iff.mp keys.symm
    exact .nil
  | cons x xs ih =>
    cases ys with
    | nil => cases keys
    | cons y ys =>
      obtain ⟨hkey, hkeys⟩ := List.cons.inj keys
      cases values with
      | cons hvalue hvalues =>
        refine .cons ?_ (ih hkeys hvalues)
        have hkey : textOf? x.1 = textOf? y.1 := hkey
        rw [hkey]
        cases textOf? y.1 with
        | none => exact .none
        | some key => exact .some ⟨rfl, hvalue⟩

theorem padsTo_self (known : Fields) : known.PadsTo known :=
  List.forall₂_same.mpr fun entry _ => ⟨rfl, .refl entry.2⟩

/-- The fields of an object. -/
theorem objectFields?_padsTo (h : doc.PadsTo other) (names : List String) :
    Option.Rel Fields.PadsTo (doc.objectFields? names) (other.objectFields? names) := by
  cases h with
  | refl doc => exact rel_refl padsTo_self (doc.objectFields? names)
  | object keys values =>
    refine rel_bind (named_padsTo keys values) fun named others hnamed => ?_
    have hknown := hnamed.filter names.contains
    dsimp only
    generalize (named.filter fun entry => names.contains entry.1) = known at hknown
    generalize (others.filter fun entry => names.contains entry.1) = more at hknown
    -- A name occurs as often in one object as in the other.
    have hlength (name : String) : (known.filter fun entry => entry.1 = name).length =
        (more.filter fun entry => entry.1 = name).length :=
      (hknown.filter fun key => key = name).length_eq
    simp only [hlength]
    split
    · exact .some hknown
    · exact .none
  | text | array => exact .none

theorem zip_padsTo {xs ys : List Document} (h : List.Forall₂ PadsTo xs ys)
    (names : List String) : Fields.PadsTo (names.zip xs) (names.zip ys) := by
  induction h generalizing names with
  | nil =>
    rw [List.zip_nil_right]
    exact .nil
  | cons hfirst _ ih =>
    cases names with
    | nil => exact .nil
    | cons name names => exact .cons ⟨rfl, hfirst⟩ (ih names)

/-- The fields of a record, in either form. -/
theorem fields?_padsTo (h : doc.PadsTo other) (names : List String) :
    Option.Rel Fields.PadsTo (doc.fields? names) (other.fields? names) := by
  cases h with
  | refl doc => exact rel_refl padsTo_self (doc.fields? names)
  | @array xs ys items =>
    rw [fields?, fields?, items.length_eq]
    split
    · exact .some (zip_padsTo items names)
    · exact .none
  | object keys values => exact objectFields?_padsTo (.object keys values) names
  | text => exact .none

end Document

theorem Fields.PadsTo.lookup {known other : Fields} (h : known.PadsTo other) (name : String) :
    Option.Rel Document.PadsTo (known.lookup name) (other.lookup name) := by
  induction h with
  | nil => exact .none
  | @cons a b _ _ hfirst _ ih =>
    rw [List.lookup_cons, List.lookup_cons, hfirst.1]
    split
    · exact .some hfirst.2
    · exact ih

/-- One field, or its default. -/
theorem Fields.PadsTo.read {α : Type} {R : α → α → Prop} {content : Document → Option α}
    {known other : Fields} (h : known.PadsTo other) (name : String) (default : α)
    (hcontent : Document.Respects R content) (hdefault : R default default) :
    Option.Rel R (known.read name default content) (other.read name default content) := by
  have hlookup := h.lookup name
  rw [Fields.read, Fields.read]
  generalize known.lookup name = doc at hlookup
  generalize other.lookup name = wide at hlookup
  cases hlookup with
  | none => exact .some hdefault
  | some hpads => exact hcontent _ _ hpads

end GatewayProbe
