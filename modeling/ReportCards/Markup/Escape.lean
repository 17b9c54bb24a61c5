namespace ReportCards.Markup

def textReference (c : Char) : List Char :=
  if c = '&' then ['&', 'a', 'm', 'p', ';']
  else if c = '<' then ['&', 'l', 't', ';']
  else if c = '>' then ['&', 'g', 't', ';']
  else if c = '\u00a0' then ['&', 'n', 'b', 's', 'p', ';']
  else [c]

def quoteReference (c : Char) : List Char :=
  if c = '"' then ['&', 'q', 'u', 'o', 't', ';'] else [c]

def escapeText (text : List Char) : List Char :=
  text.flatMap textReference

def escapeAttribute (value : List Char) : List Char :=
  (escapeText value).flatMap quoteReference

theorem escapeText_append (first second : List Char) :
    escapeText (first ++ second) = escapeText first ++ escapeText second :=
  List.flatMap_append

theorem escapeAttribute_append (first second : List Char) :
    escapeAttribute (first ++ second) = escapeAttribute first ++ escapeAttribute second := by
  simp [escapeAttribute, escapeText_append]

end ReportCards.Markup
