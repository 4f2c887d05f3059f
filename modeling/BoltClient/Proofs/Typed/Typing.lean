import BoltClient.Proofs.Number.Exact
import BoltClient.Typed.Shape

/-!
Which data are of which shape, which shapes types have whose readers and writers are derived from
their declarations, and which data are equal although they are not walked alike. A map has each of
its keys once and no order of its own, so data are the same when they differ in the orders of
their maps alone.
-/

namespace BoltClient

mutual

/-- Data of a shape, as far as a value can hold them: no integer is above those of 64 bits, and
no single is a NaN. -/
inductive Shape.Holds : Shape → Datum → Prop
  | boolean (value : Bool) : Holds .boolean (.boolean value)
  | integer {kind : IntegerKind} {number : Int} (low : kind.low ≤ number)
      (high : number ≤ kind.high) (fits : number ≤ IntegerKind.word.high) :
      Holds (.integer kind) (.integer number)
  | single {number : Single} (proper : number.isNaN = false) : Holds .single (.single number)
  | double (number : Double) : Holds .double (.double number)
  | char (c : Char) : Holds .char (.char c)
  | text (content : String) : Holds .text (.text content)
  | bytes (content : Bytes) : Holds .bytes (.bytes content)
  | unit : Holds .unit .unit
  | unitRecord (name : String) : Holds (.unitRecord name) .unit
  | absent (inner : Shape) : Holds (.option inner) .absent
  | present {inner : Shape} {datum : Datum} (content : Holds inner datum) :
      Holds (.option inner) (.present datum)
  | newtype {inner : Shape} {datum : Datum} (content : Holds inner datum) :
      Holds (.newtype inner) (.newtype datum)
  | sequence {inner : Shape} {items : List Datum} (content : ∀ item ∈ items, Holds inner item) :
      Holds (.sequence inner) (.sequence items)
  | array {inner : Shape} {items : List Datum} (content : ∀ item ∈ items, Holds inner item) :
      Holds (.array items.length inner) (.sequence items)
  | tuple {shapes : List Shape} {items : List Datum} (content : List.Forall₂ Holds shapes items) :
      Holds (.tuple shapes) (.sequence items)
  | tupleRecord {name : String} {shapes : List Shape} {items : List Datum}
      (content : List.Forall₂ Holds shapes items) :
      Holds (.tupleRecord name shapes) (.sequence items)
  | map {key inner : Shape} {entries : List (Datum × Datum)}
      (distinct : (entries.map Prod.fst).Nodup) (keys : ∀ entry ∈ entries, Holds key entry.1)
      (content : ∀ entry ∈ entries, Holds inner entry.2) :
      Holds (.map key inner) (.ofEntries entries)
  | record {name : String} {fields : List (String × FieldRule × Shape)}
      {data : List (String × Datum)} (content : HoldsFields fields data) :
      Holds (.record name fields) (.record name data)
  | unitVariant {name tag : String} {variants : List (String × Variant)}
      (variant : (tag, .unit) ∈ variants) : Holds (.choice name variants) (.unitVariant tag)
  | newtypeVariant {name tag : String} {variants : List (String × Variant)} {inner : Shape}
      {datum : Datum} (variant : (tag, .newtype inner) ∈ variants) (content : Holds inner datum) :
      Holds (.choice name variants) (.newtypeVariant tag datum)
  | tupleVariant {name tag : String} {variants : List (String × Variant)} {shapes : List Shape}
      {items : List Datum} (variant : (tag, .tuple shapes) ∈ variants)
      (content : List.Forall₂ Holds shapes items) :
      Holds (.choice name variants) (.tupleVariant tag items)
  | recordVariant {name tag : String} {variants : List (String × Variant)}
      {fields : List (String × FieldRule × Shape)} {data : List (String × Datum)}
      (variant : (tag, .record fields) ∈ variants) (content : HoldsFields fields data) :
      Holds (.choice name variants) (.recordVariant tag data)

/-- Data for each field of a record, in the order of its declaration. -/
inductive Shape.HoldsFields : List (String × FieldRule × Shape) → List (String × Datum) → Prop
  | nil : HoldsFields [] []
  | cons {name : String} {rule : FieldRule} {shape : Shape} {datum : Datum}
      {fields : List (String × FieldRule × Shape)} {data : List (String × Datum)}
      (first : Holds shape datum) (others : HoldsFields fields data) :
      HoldsFields ((name, rule, shape) :: fields) ((name, datum) :: data)

end

namespace Shape

mutual

/-- Shapes of types that are written and read as they are declared. The keys of maps are texts
or characters, an option is of data that are never written as null, the names of fields and of
variants differ, and no record has the reserved name, which is no identifier. -/
def Derived : Shape → Prop
  | integer kind => IntegerKind.word.low ≤ kind.low
  | option inner => inner.Derived ∧ ∀ datum, inner.Holds datum → datum.toValue ≠ .ok .null
  | newtype inner => inner.Derived
  | sequence inner => inner.Derived
  | array _ inner => inner.Derived
  | tuple shapes => DerivedItems shapes
  | tupleRecord _ shapes => DerivedItems shapes
  | map key inner => (key = .text ∨ key = .char) ∧ inner.Derived
  | record name fields =>
    name ≠ structureToken ∧ (fields.map Prod.fst).Nodup ∧ DerivedFields fields
  | choice _ variants => (variants.map Prod.fst).Nodup ∧ DerivedVariants variants
  | value => False
  | ignored => False
  | foreign _ => False
  | _ => True
termination_by structural shape => shape

def DerivedItems : List Shape → Prop
  | [] => True
  | shape :: others => shape.Derived ∧ DerivedItems others
termination_by structural shapes => shapes

def DerivedFields : List (String × FieldRule × Shape) → Prop
  | [] => True
  | (_, _, shape) :: others => shape.Derived ∧ DerivedFields others
termination_by structural fields => fields

def DerivedVariants : List (String × Variant) → Prop
  | [] => True
  | (_, variant) :: others => DerivedVariant variant ∧ DerivedVariants others
termination_by structural variants => variants

/-- The content of a variant is declared like a type of its own. -/
def DerivedVariant : Variant → Prop
  | .unit => True
  | .newtype inner => inner.Derived
  | .tuple shapes => DerivedItems shapes
  | .record fields => (fields.map Prod.fst).Nodup ∧ DerivedFields fields
termination_by structural variant => variant

end

end Shape

namespace Datum

mutual

/-- The same data, with the entries of any of their maps in another order. -/
inductive Rearranged : Datum → Datum → Prop
  | refl (datum : Datum) : Rearranged datum datum
  | present {datum back : Datum} (content : Rearranged datum back) :
      Rearranged (.present datum) (.present back)
  | newtype {datum back : Datum} (content : Rearranged datum back) :
      Rearranged (.newtype datum) (.newtype back)
  | sequence {items backs : List Datum} (content : List.Forall₂ Rearranged items backs) :
      Rearranged (.sequence items) (.sequence backs)
  | map {entries moved backs : List (Datum × Datum)} (order : entries.Perm moved)
      (content : RearrangedUnder moved backs) : Rearranged (.ofEntries entries) (.ofEntries backs)
  | record (name : String) {data backs : List (String × Datum)}
      (content : RearrangedUnder data backs) : Rearranged (.record name data) (.record name backs)
  | newtypeVariant (name : String) {datum back : Datum} (content : Rearranged datum back) :
      Rearranged (.newtypeVariant name datum) (.newtypeVariant name back)
  | tupleVariant (name : String) {items backs : List Datum}
      (content : List.Forall₂ Rearranged items backs) :
      Rearranged (.tupleVariant name items) (.tupleVariant name backs)
  | recordVariant (name : String) {data backs : List (String × Datum)}
      (content : RearrangedUnder data backs) :
      Rearranged (.recordVariant name data) (.recordVariant name backs)

/-- The same data under the same keys or names. -/
inductive RearrangedUnder : {Key : Type} → List (Key × Datum) → List (Key × Datum) → Prop
  | nil {Key : Type} : RearrangedUnder ([] : List (Key × Datum)) []
  | cons {Key : Type} (key : Key) {datum back : Datum} {entries backs : List (Key × Datum)}
      (first : Rearranged datum back) (others : RearrangedUnder entries backs) :
      RearrangedUnder ((key, datum) :: entries) ((key, back) :: backs)

end

end Datum

end BoltClient
