import CallHierarchy.Path

/-! The languages of source files, told by the extensions of their names. -/

namespace CallHierarchy.Language

/-- The extensions that tell a language. -/
def extensions : List (String × String) := [
  ("rs", "rust"),
  ("go", "go"),
  ("py", "python"),
  ("js", "javascript"), ("mjs", "javascript"), ("cjs", "javascript"),
  ("ts", "typescript"), ("mts", "typescript"), ("cts", "typescript"),
  ("tsx", "typescriptreact"),
  ("jsx", "javascriptreact"),
  ("c", "c"),
  ("cpp", "cpp"), ("cc", "cpp"), ("cxx", "cpp"), ("h", "cpp"), ("hpp", "cpp"),
  ("java", "java"),
  ("kt", "kotlin"), ("kts", "kotlin"),
  ("cs", "csharp"),
  ("rb", "ruby"),
  ("php", "php"),
  ("swift", "swift"),
  ("lua", "lua"),
  ("sh", "shellscript"), ("bash", "shellscript"), ("zsh", "shellscript")]

/-- The language of the file at a path. -/
def ofPath (path : String) : String :=
  match Path.extension? path.toList with
  | none => "plaintext"
  | some extension => (extensions.lookup (String.ofList extension)).getD "plaintext"

end CallHierarchy.Language
