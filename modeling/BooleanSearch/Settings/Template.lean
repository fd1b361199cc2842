/-! # Templates of settings files

A template is a whole settings file with a value for every setting. A new settings file explains
every setting and sets none: it is a template with all its lines as comments.
-/

namespace BooleanSearch.Template

/-- A line as a comment. One that is a comment already stays as it is, and so does an empty one. -/
def commentLine (line : String) : String :=
  if line.isEmpty || line.toList.head? == some '#' then line else "# " ++ line

/-- Lines as comments, each ended by a line feed. -/
def comment (lines : List String) : String := String.join (lines.map (commentLine · ++ "\n"))

/-- The lines of the template for a directory and everything below it. -/
def directoryLines : List String := [
  "# osearch configuration",
  "#",
  "# Settings in this file apply to this directory and everything below it.",
  "# Closer files take precedence over files in parent directories, and",
  "# ~/.osearch.toml is consulted last.",
  "",
  "# Stop looking for configuration files in parent directories.",
  "root = false",
  "",
  "[parser]",
  "# Maximum nesting depth of a $search expression. A single word nests four",
  "# levels deep; every parenthesized group adds four more and every NOT adds one.",
  "max_depth = 50",
  "",
  "[output]",
  "# Default rendering for `osearch parse`: \"tree\" or \"json\".",
  "format = \"tree\""]

/-- The lines of the template for the home directory. -/
def homeLines : List String := [
  "# Global osearch configuration (~/.osearch.toml)",
  "#",
  "# Lowest precedence: per-directory .osearch.toml files override these values.",
  "",
  "[parser]",
  "max_depth = 50",
  "",
  "[output]",
  "format = \"tree\""]

/-- A new settings file for a directory and everything below it. -/
def directory : String := comment directoryLines

/-- A new settings file in the home directory. -/
def home : String := comment homeLines

end BooleanSearch.Template
