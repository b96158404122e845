import ImportChart.Text.Basic

/-!
# The page that shows a diagram

A page holds a title and the text of a diagram, both escaped, so that neither can add markup; a script on the page
draws the diagram.
-/

namespace ImportChart.Page

/-- The five characters that markup gives a meaning to, as entities. -/
def escapeChar (c : Char) : Text :=
  if c == '&' then "&amp;"
  else if c == '<' then "&lt;"
  else if c == '>' then "&gt;"
  else if c == '"' then "&quot;"
  else if c == '\'' then "&#x27;"
  else [c]

/-- A text with its markup characters as entities. -/
def escape (t : Text) : Text := t.flatMap escapeChar

/-- Where the drawing script comes from. -/
def scriptSource : Text := "https://cdn.jsdelivr.net/npm/mermaid@10/dist/mermaid.min.js"

/-- The page up to its title. -/
def beforeTitle : Text :=
  "<!DOCTYPE html>\n<html lang=\"en\">\n<head>\n  <meta charset=\"UTF-8\">\n  <meta name=\"viewport\" content=\"width=device-width, initial-scale=1.0\">\n  <title>"

/-- The page from its title to its heading. -/
def beforeHeading : Text :=
  ("</title>\n  <style>\n    body \x7b font-family: -apple-system, BlinkMacSystemFont, \"Segoe UI\", sans-serif; margin: 20px; \x7d\n    .container \x7b overflow: auto; \x7d\n  </style>\n  <script src=\"" : Text) ++
    scriptSource ++ "\"></script>\n</head>\n<body>\n  <div class=\"container\">\n    <h1>"

/-- The page from its heading to the diagram. -/
def beforeDiagram : Text := "</h1>\n    <pre class=\"mermaid\">\n"

/-- The page from the diagram to the greatest text size. -/
def beforeSize : Text :=
  "\n    </pre>\n  </div>\n  <script>\n    mermaid.initialize(\x7b\"startOnLoad\": true, \"theme\": \"default\", \"maxTextSize\": "

/-- The page from the greatest text size on. -/
def afterSize : Text :=
  ", \"flowchart\": \x7b\"useMaxWidth\": true, \"htmlLabels\": true, \"curve\": \"basis\"\x7d\x7d);\n  </script>\n</body>\n</html>\n"

/-- The page of a diagram. -/
def render (diagram title : Text) (maxTextSize : Int) : Text :=
  beforeTitle ++ escape title ++ beforeHeading ++ escape title ++ beforeDiagram ++ escape diagram ++ beforeSize ++
    Text.ofInt maxTextSize ++ afterSize

end ImportChart.Page
