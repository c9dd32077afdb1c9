/-!
# The Java platform

Which names the platform itself provides: those under some package prefixes, and the types of
`java.lang`, which need no import.
-/

namespace JavaDeps.Resolve

/-- The public top-level types of `java.lang`. -/
def javaLangTypes : List String :=
  ["AbstractMethodError", "Appendable", "ArithmeticException", "ArrayIndexOutOfBoundsException",
    "ArrayStoreException", "AssertionError", "AutoCloseable", "Boolean", "BootstrapMethodError",
    "Byte", "CharSequence", "Character", "Class", "ClassCastException", "ClassCircularityError",
    "ClassFormatError", "ClassLoader", "ClassNotFoundException", "ClassValue",
    "CloneNotSupportedException", "Cloneable", "Comparable", "Deprecated", "Double", "Enum",
    "EnumConstantNotPresentException", "Error", "Exception", "ExceptionInInitializerError",
    "Float", "FunctionalInterface", "IllegalAccessError", "IllegalAccessException",
    "IllegalArgumentException", "IllegalCallerException", "IllegalMonitorStateException",
    "IllegalStateException", "IllegalThreadStateException", "IncompatibleClassChangeError",
    "IndexOutOfBoundsException", "InheritableThreadLocal", "InstantiationError",
    "InstantiationException", "Integer", "InternalError", "InterruptedException", "Iterable",
    "LayerInstantiationException", "LinkageError", "Long", "MatchException", "Math", "Module",
    "ModuleLayer", "NegativeArraySizeException", "NoClassDefFoundError", "NoSuchFieldError",
    "NoSuchFieldException", "NoSuchMethodError", "NoSuchMethodException", "NullPointerException",
    "Number", "NumberFormatException", "Object", "OutOfMemoryError", "Override", "Package",
    "Process", "ProcessBuilder", "ProcessHandle", "Readable", "Record",
    "ReflectiveOperationException", "Runnable", "Runtime", "RuntimeException",
    "RuntimePermission", "SafeVarargs", "SecurityException", "SecurityManager", "Short",
    "StackOverflowError", "StackTraceElement", "StackWalker", "StrictMath", "String",
    "StringBuffer", "StringBuilder", "StringIndexOutOfBoundsException", "SuppressWarnings",
    "System", "Thread", "ThreadDeath", "ThreadGroup", "ThreadLocal", "Throwable",
    "TypeNotPresentException", "UnknownError", "UnsatisfiedLinkError",
    "UnsupportedClassVersionError", "UnsupportedOperationException", "VerifyError",
    "VirtualMachineError", "Void"]

/-- Whether a simple name is a type of `java.lang`. -/
def isJavaLang (name : String) : Bool := javaLangTypes.contains name

/-- The packages of the platform, as prefixes of qualified names. Each of them ends with a dot by
convention, which is not checked. -/
structure Platform where
  prefixes : List String
  deriving DecidableEq, Repr

namespace Platform

/-- The prefixes that the platform provides unless told otherwise. -/
def standard : Platform :=
  ⟨["java.", "javax.", "jdk.", "sun.", "com.sun.", "org.w3c.dom.", "org.xml.sax."]⟩

instance : Inhabited Platform := ⟨standard⟩

/-- Whether a text starts with another. -/
def startsWith (text lead : String) : Bool := lead.toList.isPrefixOf text.toList

/-- Whether the platform provides a qualified name: the name starts with one of the prefixes,
character by character. -/
def provides (p : Platform) (symbol : String) : Bool :=
  p.prefixes.any (startsWith symbol)

/-- Whether the platform provides a package: it lies under a prefix, or is one without its dot. -/
def providesPackage (p : Platform) (package : String) : Bool :=
  p.prefixes.any fun lead ↦ startsWith package lead || lead == package ++ "."

end Platform

end JavaDeps.Resolve
