/-!
The style sheet of gallery pages.
-/

namespace VectorIcon.Gallery

def styleSheet : List String :=
  ["* \x7b box-sizing: border-box; \x7d",
    "body \x7b",
    "    font-family: system-ui, sans-serif;",
    "    margin: 0;",
    "    background: #eee;",
    "    color: #333;",
    "\x7d",
    ".page \x7b max-width: 1200px; margin: 0 auto; padding: 24px; \x7d",
    "h1 \x7b font-weight: 600; font-size: 20px; margin: 0 0 24px 0; \x7d",
    ".stats \x7b font-size: 13px; margin-bottom: 16px; \x7d",
    ".card \x7b",
    "    background: white;",
    "    border-radius: 8px;",
    "    box-shadow: 0 1px 3px rgba(0,0,0,0.08);",
    "    margin-bottom: 16px;",
    "    overflow: hidden;",
    "\x7d",
    ".card-header \x7b",
    "    display: flex;",
    "    justify-content: space-between;",
    "    padding: 12px 16px;",
    "    border-bottom: 1px solid #eee;",
    "    background: #fafafa;",
    "    font-size: 13px;",
    "    font-weight: 600;",
    "\x7d",
    ".status \x7b font-size: 11px; padding: 3px 8px; border-radius: 4px; \x7d",
    ".status.match \x7b background: #dcfce7; color: #166534; \x7d",
    ".status.mismatch \x7b background: #fee2e2; color: #991b1b; \x7d",
    ".card-body \x7b padding: 12px 16px; \x7d",
    ".comparison \x7b display: grid; grid-template-columns: 1fr 1fr; gap: 12px; \x7d",
    ".column \x7b border: 1px solid #e5e5e5; border-radius: 6px; overflow: hidden; \x7d",
    ".column-header \x7b",
    "    padding: 8px 12px;",
    "    font-size: 11px;",
    "    font-weight: 600;",
    "    text-transform: uppercase;",
    "    border-bottom: 1px solid #e5e5e5;",
    "    background: #f5f5f5;",
    "\x7d",
    ".svg-container \x7b",
    "    padding: 12px;",
    "    min-height: 60px;",
    "    display: flex;",
    "    align-items: center;",
    "    justify-content: center;",
    "\x7d",
    ".svg-container svg \x7b width: 96px; height: 96px; \x7d",
    ".error, .source \x7b",
    "    font-family: 'SF Mono', Monaco, monospace;",
    "    font-size: 11px;",
    "    white-space: pre-wrap;",
    "    padding: 8px 10px;",
    "\x7d",
    ".error \x7b color: #991b1b; background: #fef2f2; \x7d",
    ".source \x7b background: #f8f8f8; border: 1px solid #e0e0e0; " ++
      "border-radius: 4px; max-height: 300px; overflow: auto; \x7d",
    "summary \x7b cursor: pointer; font-size: 11px; color: #666; padding: 4px 0; \x7d"]

end VectorIcon.Gallery
