/-!
# Reserved words

Scala reserves words and a few operators; the platform that it compiles to reserves the words of
Java.  A package is visible to both languages, so its segments avoid both lists, while a type
name avoids only the Scala one.
-/

namespace Scaffold.Scala

/-- The reserved words and operators of Scala. -/
def scalaKeywords : List String :=
  ["abstract", "case", "catch", "class", "def", "do", "else", "extends", "false", "final",
    "finally", "for", "forSome", "if", "implicit", "import", "lazy", "macro", "match", "new",
    "null", "object", "override", "package", "private", "protected", "return", "sealed",
    "super", "this", "throw", "trait", "try", "true", "type", "val", "var", "while", "with",
    "yield", "_", ":", "=", "=>", "<-", "<:", "<%", ">:", "#", "@"]

/-- The reserved words of Java. -/
def javaKeywords : List String :=
  ["abstract", "assert", "boolean", "break", "byte", "case", "catch", "char", "class", "const",
    "continue", "default", "do", "double", "else", "enum", "extends", "false", "final",
    "finally", "float", "for", "goto", "if", "implements", "import", "instanceof", "int",
    "interface", "long", "native", "new", "null", "package", "private", "protected", "public",
    "return", "short", "static", "strictfp", "super", "switch", "synchronized", "this",
    "throw", "throws", "transient", "true", "try", "void", "volatile", "while"]

/-- Whether Scala reserves a word. -/
def isScalaKeyword (word : List Char) : Bool := scalaKeywords.contains (String.ofList word)

/-- Whether Java reserves a word. -/
def isJavaKeyword (word : List Char) : Bool := javaKeywords.contains (String.ofList word)

end Scaffold.Scala
