import Cabinet.Storage.Path

/-!
Content types by the extension of a name. Letters count alike in both cases. Which extensions are known
is told by a table that a storage carries; nothing but the type of a name depends on it.
-/

namespace Cabinet.ContentType

/-- The content type of folders. -/
def folder : String := "inode/directory"

/-- The content type of what is not known better. -/
def octetStream : String := "application/octet-stream"

/-- Extensions with their content types, for storages that are given no table of their own. -/
def usual : List (String × String) :=
  [("7z", "application/x-7z-compressed"), ("bmp", "image/bmp"), ("c", "text/plain"),
    ("cfg", "text/plain"), ("css", "text/css"), ("csv", "text/csv"), ("dir", "application/x-director"),
    ("docx", "application/vnd.openxmlformats-officedocument.wordprocessingml.document"),
    ("gif", "image/gif"), ("gz", "application/gzip"), ("h", "text/plain"), ("htm", "text/html"),
    ("html", "text/html"), ("ico", "image/x-icon"), ("jpeg", "image/jpeg"), ("jpg", "image/jpeg"),
    ("js", "text/javascript"), ("json", "application/json"), ("log", "text/plain"),
    ("md", "text/markdown"), ("mjs", "application/javascript"), ("mp3", "audio/mpeg"),
    ("mp4", "video/mp4"), ("pdf", "application/pdf"), ("png", "image/png"), ("rs", "text/x-rust"),
    ("rtf", "application/rtf"), ("sh", "application/x-sh"), ("svg", "image/svg+xml"),
    ("tar", "application/x-tar"), ("toml", "text/x-toml"), ("ttf", "font/ttf"), ("txt", "text/plain"),
    ("wasm", "application/wasm"), ("wav", "audio/wav"), ("webp", "image/webp"),
    ("woff2", "font/woff2"), ("x", "application/directx"), ("xhtml", "application/xhtml+xml"),
    ("xml", "text/xml"), ("yaml", "text/x-yaml"), ("z", "application/x-compress"),
    ("zip", "application/zip")]

/-- The content type of a name by a table of extensions. -/
def ofName (known : List (String × String)) (name : String) : String :=
  match StoragePath.extensionOf? name with
  | none => octetStream
  | some extension => (known.lookup (extension.map Char.toLower)).getD octetStream

end Cabinet.ContentType
