import ImageCatalog.Config.Value

/-!
# Editors of TOML documents

The settings file is saved through a library that edits TOML documents and
keeps their layout. `Editor D` is what saving uses of such a library, over its
documents `D`: an empty document, the document a text holds, a document with a
top-level key given a value, and the text of a document. Taking in a text and
giving a key a value may fail, with a message.

Saving takes the editor as a parameter (`Config.Settings.save`). What it is
proved to do rests on laws of the editor stated against the strict reader
(`Editor.ReadsBack`), so it holds for every editor that keeps them;
`Layout.editor`, the layout-keeping sheet, is the one the program runs with.
-/

namespace ImageCatalog.Toml

open ImageCatalog.Config

/-- The operations of a library that edits TOML documents of type `D`. -/
structure Editor (D : Type) where
  /-- A new document with no entries. -/
  empty : D
  /-- The document a text holds, or why it holds none. -/
  parse : String → Except String D
  /-- The document with a top-level key given a value, or why the value
  cannot be written. -/
  set : D → String → Value → Except String D
  /-- The text of a document. -/
  dump : D → String

end ImageCatalog.Toml
