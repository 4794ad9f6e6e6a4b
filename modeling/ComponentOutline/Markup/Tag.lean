/-!
# Tags of markup

A tag is plain markup when it is one of the names of HTML.  Every other name is that
of a component, and names differ by letter case.
-/

namespace ComponentOutline
namespace Markup

/-- The names of HTML elements. -/
def htmlElements : List String :=
  ["a", "abbr", "address", "area", "article", "aside", "audio", "b", "bdi", "bdo",
    "blockquote", "body", "br", "button", "canvas", "caption", "cite", "code", "col",
    "colgroup", "data", "datalist", "dd", "del", "details", "dfn", "dialog", "div", "dl",
    "dt", "em", "embed", "fieldset", "figcaption", "figure", "font", "footer", "form",
    "frame", "h1", "h2", "h3", "h4", "h5", "h6", "head", "header", "hr", "html", "i",
    "iframe", "img", "input", "ins", "kbd", "label", "legend", "li", "link", "main", "map",
    "mark", "meta", "meter", "nav", "noscript", "object", "ol", "optgroup", "option",
    "output", "p", "param", "picture", "pre", "progress", "q", "rb", "rp", "rt", "ruby",
    "s", "samp", "script", "section", "select", "small", "source", "span", "strong",
    "style", "sub", "summary", "sup", "svg", "table", "tbody", "td", "template",
    "textarea", "tfoot", "th", "thead", "time", "title", "tr", "track", "u", "ul", "var",
    "video", "wbr"]

/-- Whether a tag is plain markup.  A fragment has no tag and is markup too. -/
def isMarkupTag : Option String → Bool
  | none => true
  | some tag => htmlElements.contains tag

end Markup
end ComponentOutline
