import CronHeatMap.Web.Domain.Label

/-!
# Domain names

Which names may stand for a host. A name is first brought to a common form: escapes are resolved,
each character is replaced by what it stands for, and the whole is composed. The common form is cut
into labels at its dots. It must not be empty, nor hold characters that mean something else in an
address.
-/

namespace CronHeatMap.Web

/-- The bytes of a name, with its escapes resolved. -/
def unescaped : List Char → List UInt8
  | [] => []
  | '%' :: a :: b :: cs =>
    match Text.Form.hexByte? a b with
    | some byte => byte :: unescaped cs
    | none => Text.Utf8.encodeChar '%' ++ unescaped (a :: b :: cs)
  | c :: cs => Text.Utf8.encodeChar c ++ unescaped cs

namespace Domain

open Text (Direction)

/-- The characters of ASCII that no name holds: controls, the space, and what means something else
in an address. -/
def isReserved (c : Char) : Bool :=
  c.toNat ≤ 0x20 || c.toNat == 0x7F || "%#/:<>?@[\\]^|".toList.contains c

/-- What a character of a name stands for. -/
def imageOf? (c : Char) : Option (List Char) :=
  if c.toNat < 0x80 then some [c.toLower]
  else match image? c with
    | some image => some image
    | none => if forbidden.contains c then none else some [c]

/-- The common form of a name. -/
def folded? (cs : List Char) : Option (List Char) :=
  (cs.mapM imageOf?).map fun images => Text.Composition.compose images.flatten

/-- The labels of a name. -/
def labels? (cs : List Char) : Option (List (List Char)) := do
  let name ← folded? cs
  guard (name.all (!isReserved ·))
  (Text.pieces (· == '.') name).mapM decodeLabel?

/-- The labels make up the name of a host. -/
def areValid (labels : List (List Char)) : Bool :=
  labels != [[]] && labels.all isLabel &&
    (!labels.any runsFromRight ||
      labels.all fun label => label.isEmpty || directionsAgree (label.map Direction.ofChar))

/-- The labels of a name as it was written, if it may stand for a host. -/
def ofText? (cs : List Char) : Option (List (List Char)) :=
  (labels? (Text.Utf8.decode (unescaped cs))).filter areValid

end Domain

end CronHeatMap.Web
