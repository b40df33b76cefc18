import BindingGlue.Types.Basic

/-!
# The standard vocabulary

The types that are understood when nothing else is said: booleans, numbers, strings, enumerations,
value objects, long-lived objects behind pointers, and lists of value objects. Each family is one
function from a name to its entry.
-/

namespace BindingGlue.Vocabulary

/-- The type of a method without a result. -/
def void : TypeEntry where
  name := "void"
  category := .void
  nativeSpelling := "void"
  typedName := "void"

/-- A boolean type. -/
def boolean (name : String) : TypeEntry where
  name := name
  category := .boolean
  nativeSpelling := name
  typedName := "boolean"
  packing := .boolean
  propertyGetter := some "\x7bvalue\x7d.toBool()"

/-- A signed integer type. -/
def signed (name : String) : TypeEntry where
  name := name
  category := .signedInteger
  nativeSpelling := name
  typedName := "number"
  packing := .numeric
  numberAccessor := some "Int32Value"
  propertyGetter := some "\x7bvalue\x7d.toInt()"

/-- An unsigned integer type. -/
def unsigned (name : String) : TypeEntry where
  name := name
  category := .unsignedInteger
  nativeSpelling := name
  typedName := "number"
  packing := .numeric
  numberAccessor := some "Uint32Value"
  propertyGetter := some "\x7bvalue\x7d.toInt()"

/-- A floating-point type, read with the accessor. -/
def floating (accessor name : String) : TypeEntry where
  name := name
  category := .floatingPoint
  nativeSpelling := name
  typedName := "number"
  packing := .numeric
  numberAccessor := some accessor
  propertyGetter := some "\x7bvalue\x7d.toDouble()"

/-- A string type. -/
def text (name : String) : TypeEntry where
  name := name
  category := .string
  nativeSpelling := name
  typedName := "string"
  packing := .string
  propertyGetter := some "\x7bvalue\x7d.toString()"

/-- An enumeration, or with `bitFlags` the combinations of its values. -/
def enumeration (bitFlags : Bool) (name typedName : String) : TypeEntry where
  name := name
  category := .enumeration
  nativeSpelling := name
  typedName := typedName
  packing := .numeric
  numberAccessor := some "Int32Value"
  bitFlags := bitFlags
  propertyGetter := some "\x7bvalue\x7d.toInt()"

/-- A value object: its wrapper holds a copy. -/
def valueObject (name : String) : TypeEntry where
  name := name
  category := .object
  nativeSpelling := name
  typedName := name
  packing := .ownedObject
  needsDereference := true
  needsNativeUnwrap := true
  wrapClass := some (name ++ "Wrap")
  propertyGetter := some "\x7btyped\x7d.\x7bfrom_generic\x7d(\x7bvalue\x7d)"

/-- A long-lived object, passed by pointer. -/
def pointerObject (name : String) : TypeEntry where
  name := name
  category := .object
  nativeSpelling := name ++ "*"
  typedName := name
  packing := .passThroughObject
  needsNativeUnwrap := true
  wrapClass := some (name ++ "Wrap")

/-- A list of objects of the element type. -/
def objectList (name : String) (element : TypeEntry) : TypeEntry where
  name := name
  category := .object
  nativeSpelling := name
  typedName := element.typedName ++ "[]"
  packing := .objectList
  wrapClass := element.wrapClass
  element := some element.name

/-- The entries of the standard vocabulary, in the order of their families. -/
def standard : List TypeEntry :=
  ["bool", "GLboolean"].map boolean ++
  ["int", "qint32", "GLint", "GLsizei", "GLenum"].map signed ++
  ["uint", "quint32", "GLuint"].map unsigned ++
  ["float", "GLfloat", "GLclampf"].map (floating "FloatValue") ++
  ["double", "qreal"].map (floating "DoubleValue") ++
  [text "QString",
   enumeration true "Qt::Alignment" "AlignmentFlag",
   enumeration true "Qt::Orientations" "Orientation",
   enumeration true "Qt::ItemFlags" "ItemFlag",
   enumeration true "Qt::WindowFlags" "WindowType",
   enumeration false "Qt::Orientation" "Orientation",
   enumeration false "Qt::FocusPolicy" "FocusPolicy",
   enumeration false "Qt::TextFormat" "TextFormat",
   enumeration false "Qt::CheckState" "CheckState",
   enumeration false "Qt::ContextMenuPolicy" "ContextMenuPolicy"] ++
  ["QRect", "QRectF", "QSize", "QPoint", "QPointF", "QModelIndex", "QColor", "QFont", "QIcon",
   "QVariant", "QKeySequence"].map valueObject ++
  ["QWidget", "QMenu", "QAction", "QObject", "QAbstractItemModel", "QScreen"].map pointerObject ++
  [objectList "QModelIndexList" (valueObject "QModelIndex"),
   objectList "QList<QModelIndex>" (valueObject "QModelIndex"),
   objectList "QList<QRect>" (valueObject "QRect")]

end BindingGlue.Vocabulary
