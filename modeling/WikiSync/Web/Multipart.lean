import WikiSync.Text.Hex

/-!
# Multipart Forms

A form with one file, as the body of a request. A boundary, which must not
occur in the file, marks where the file starts and ends.
-/

namespace WikiSync.Multipart

/-- The line ending of the format. -/
def lineEnd : String := "\r\n"

/-- What stands in front of the content of a file. -/
def header (boundary filename contentType : String) : String :=
  "--" ++ boundary ++ lineEnd ++
    "Content-Disposition: form-data; name=\"file\"; filename=\"" ++ filename ++ "\"" ++ lineEnd ++
    "Content-Type: " ++ contentType ++ lineEnd ++ lineEnd

/-- What stands behind the content of a file. -/
def footer (boundary : String) : String :=
  lineEnd ++ "--" ++ boundary ++ "--" ++ lineEnd

/-- A form with one file. -/
def file (boundary filename : String) (data : Bytes) (contentType : String) : Bytes :=
  Text.utf8 (header boundary filename contentType) ++ data ++ Text.utf8 (footer boundary)

/-- The content type of a form. -/
def contentType (boundary : String) : String :=
  "multipart/form-data; boundary=" ++ boundary

end WikiSync.Multipart
