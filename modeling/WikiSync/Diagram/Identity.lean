import WikiSync.Digest.Sha256

/-!
# Diagram Identity

A code block in the diagram language is shown as an image. The image is named
after the source of the diagram, so equal diagrams share one image and a
changed diagram gets a new one.

## Main definitions

* `language`, `contentType`: The language of diagrams and the type of images.
* `identifier`, `filename`: The name of the image of a source.
-/

namespace WikiSync.Diagram

/-- The language of code blocks that are shown as images. -/
def language : String := "mermaid"

/-- The content type of rendered diagrams. -/
def contentType : String := "image/png"

/-- The first twelve digits of the digest of a source. -/
def identifier (source : String) : String :=
  String.ofList ((Sha256.hexDigest source).toList.take 12)

/-- The file name of the image of a source. -/
def filename (source : String) : String :=
  language ++ "-" ++ identifier source ++ ".png"

end WikiSync.Diagram
