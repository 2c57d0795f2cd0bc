/-!
# `Text` · Escaped HTML

The five characters that HTML gives a meaning are written as entities, so that a text stands in a
page, or between quotes in a tag, as itself.
-/

namespace TemplateEngine.Text

/-- The characters that stand for one character in a page. -/
def htmlEntity (c : Char) : List Char :=
  if c = '&' then ['&', 'a', 'm', 'p', ';']
  else if c = '<' then ['&', 'l', 't', ';']
  else if c = '>' then ['&', 'g', 't', ';']
  else if c = '"' then ['&', 'q', 'u', 'o', 't', ';']
  else if c = '\x27' then ['&', '#', '3', '9', ';']
  else [c]

/-- A text as it is written in a page. -/
def escapeHtml (cs : List Char) : List Char := cs.flatMap htmlEntity

end TemplateEngine.Text
