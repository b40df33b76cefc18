/-!
# Options

What can be chosen about the generated code: the names of the helpers that it calls, the templates
that it is laid out with, and the labels of the report.
-/

namespace BindingGlue

/-- The expressions through which generated code reaches the cache of wrappers. -/
structure WrapperCache where
  /-- Called on the environment and a native object. -/
  nativeLookup : String := "WrapperCache::instance.getWrapper"
  /-- Called on a native handle. -/
  typedLookup : String := "wrapperCache.getWrapper"

/-- The options of the generated code. -/
structure Options where
  /-- What a class name is extended by to name its wrapper class. -/
  wrapperSuffix : String := "Wrap"
  /-- The expression for the wrapped native object. -/
  nativeInstance : String := "this->instance"
  /-- The member that holds the native handle of a typed object. -/
  nativeField : String := "native"
  /-- The cache of wrappers. -/
  wrapperCache : WrapperCache := {}
  /-- The call that reads a generic property. -/
  propertyGetter : String := "this.property"
  /-- The call that writes a generic property. -/
  propertySetter : String := "this.setProperty"
  /-- The constructor of a typed object from a generic value. -/
  genericValueConstructor : String := "fromQVariant"
  /-- The prefix that typed names drop. -/
  legacyPrefix : String := "gl"
  /-- The template of a native body. -/
  nativeBodyTemplate : String := "native_body.cpp.j2"
  /-- The template of the report. -/
  reportTemplate : String := "report.txt.j2"
  /-- The labels of the sections of the report, in order. -/
  sectionLabels : List String := ["C++ declaration", "Napi declaration", "C++ body", "TS body"]

namespace Options

/-- The expression for the native handle of the typed object itself. -/
def typedNative (options : Options) : String :=
  "this." ++ options.nativeField

/-- The name of the wrapper class of a class. -/
def wrapperName (options : Options) (className : String) : String :=
  className ++ options.wrapperSuffix

end Options

end BindingGlue
