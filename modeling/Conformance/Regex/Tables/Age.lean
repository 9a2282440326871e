import Conformance.Regex.CharTable

/-! The version of the character standard in which each code point was assigned. -/
namespace Conformance.Regex.Tables

/-- Versions by runs; `x` stands where nothing is assigned. -/
def ages : Array (Nat × String) := CharTable.runs
  "502v1.1 4v3.0 30v1.1 8v3.0 1v3.2 1v4.0 18v3.0 3v4.0 11v4.1 14v5.0 89v1.1 5v3.0 2v4.0 47v1.1
  1v3.0 10v1.1 5v3.0 17v4.0 70v1.1 9v3.0 1v3.2 8v4.0 5v4.1 3v4.0 2v1.1 1v3.0 13v3.2 4v5.1 2v1.1
  2v5.1 2x 1v1.1 3v5.0 1v1.1 1v7.0 4x 7v1.1 1x 1v1.1 1x 20v1.1 1x 44v1.1 1v5.1 7v1.1 1v3.0 2v3.2
  1v1.1 1v3.0 1v1.1 1v3.0 1v1.1 1v3.0 1v1.1 1v3.0 18v1.1 2v3.1 1v3.2 5v4.0 4v4.1 1v3.0 12v1.1
  1v3.0 66v1.1 1v3.0 12v1.1 1v3.0 41v1.1 1v5.1 2v3.0 2v3.2 4v3.0 53v1.1 2v3.2 2v1.1 2v3.2 2v1.1
  2v3.2 1v5.0 28v1.1 2v3.0 8v1.1 2v4.1 2v1.1 6v5.0 16v3.2 4v5.0 16v5.1 2v5.2 2v6.0 8v7.0 1x 38v1.1
  2x 7v1.1 1v11.0 39v1.1 1v11.0 1v1.1 1v3.0 2x 2v7.0 1v6.1 1x 17v2.0 1v4.1 13v2.0 10v1.1 1v5.0
  9v1.1 1v2.0 3v4.1 8x 27v1.1 4x 1v11.0 5v1.1 11x 4v4.0 1v6.1 1v7.0 5v5.1 1v4.1 1v1.1 9v4.0 5v5.1
  1v1.1 1v6.3 1v14.0 1v4.1 1v1.1 1v6.0 26v1.1 5v5.1 19v1.1 3v3.0 3v4.0 6v4.1 1v6.0 14v1.1 2v3.2
  72v1.1 2v3.0 5v1.1 1v3.0 15v1.1 1v3.0 30v1.1 2v4.0 10v1.1 5v3.0 1v4.0 14v3.0 1x 30v3.0 3v4.0
  27v3.0 2x 3v4.0 30v4.1 18v5.1 49v3.0 1v3.2 14x 59v5.0 2x 3v11.0 46v5.2 2x 15v5.2 1x 28v6.0 2x
  1v6.0 1x 11v10.0 5x 31v14.0 1x 2v14.0 5x 1v16.0 8v14.0 1v6.1 1v7.0 11v6.1 6v7.0 2v8.0 1v14.0
  8v9.0 10v13.0 11v14.0 1v11.0 15v9.0 1v8.0 27v6.1 1v7.0 1v5.2 3v1.1 1v4.0 53v1.1 2v6.0 18v1.1
  1v5.2 1v6.0 5v1.1 1v5.2 2v6.0 25v1.1 2v5.1 5v6.0 1v7.0 2v5.2 2v5.0 1v4.1 2v5.0 1v7.0 3v1.1 1x
  8v1.1 2x 2v1.1 2x 22v1.1 1x 7v1.1 1x 1v1.1 3x 4v1.1 2x 1v1.1 1v4.0 7v1.1 2x 2v1.1 2x 3v1.1 1v4.1
  8x 1v1.1 4x 2v1.1 1x 5v1.1 2x 21v1.1 1v5.2 2v10.0 1v11.0 2x 1v4.0 1v1.1 1v4.0 1x 6v1.1 4x 2v1.1
  2x 22v1.1 1x 7v1.1 1x 2v1.1 1x 2v1.1 1x 2v1.1 2x 1v1.1 1x 5v1.1 4x 2v1.1 2x 3v1.1 3x 1v5.1 7x
  4v1.1 1x 1v1.1 7x 15v1.1 1v5.1 1v11.0 10x 3v1.1 1x 7v1.1 1v4.0 1v1.1 1x 3v1.1 1x 22v1.1 1x 7v1.1
  1x 2v1.1 1x 5v1.1 2x 10v1.1 1x 3v1.1 1x 3v1.1 2x 1v1.1 15x 1v1.1 3v4.0 2x 10v1.1 1v6.1 1v4.0 7x
  1v8.0 6v10.0 1x 3v1.1 1x 8v1.1 2x 2v1.1 2x 22v1.1 1x 7v1.1 1x 2v1.1 1x 1v4.0 4v1.1 2x 8v1.1
  1v5.1 2x 2v1.1 2x 3v1.1 7x 1v13.0 2v1.1 4x 2v1.1 1x 3v1.1 2v5.1 2x 11v1.1 1v4.0 6v6.0 10x 2v1.1
  1x 6v1.1 3x 3v1.1 1x 4v1.1 3x 2v1.1 1x 1v1.1 1x 2v1.1 3x 2v1.1 3x 3v1.1 3x 8v1.1 1v4.1 3v1.1 4x
  5v1.1 3x 3v1.1 1x 4v1.1 2x 1v5.1 6x 1v1.1 14x 1v4.1 12v1.1 8v4.0 5x 1v7.0 3v1.1 1v11.0 8v1.1 1x
  3v1.1 1x 23v1.1 1x 10v1.1 1v7.0 5v1.1 2x 1v14.0 1v5.1 7v1.1 1x 3v1.1 1x 4v1.1 7x 2v1.1 1x 2v5.1
  1v8.0 2x 1v14.0 2x 2v1.1 2v5.1 2x 10v1.1 7x 1v12.0 8v5.1 1v9.0 1v7.0 2v1.1 1v11.0 8v1.1 1x 3v1.1
  1x 23v1.1 1x 10v1.1 1x 5v1.1 2x 2v4.0 7v1.1 1x 3v1.1 1x 4v1.1 7x 2v1.1 6x 1v14.0 1v1.1 1x 2v1.1
  2v5.0 2x 10v1.1 1x 2v5.0 1v15.0 12x 1v10.0 1v7.0 2v1.1 1v13.0 8v1.1 1x 3v1.1 1x 23v1.1 1v6.0
  16v1.1 1v6.0 2v10.0 1v5.1 6v1.1 1v5.1 1x 3v1.1 1x 4v1.1 1v6.0 1v9.0 4x 3v9.0 1v1.1 7v9.0 1v8.0
  2v1.1 2v5.1 2x 10v1.1 6v5.1 3v9.0 7v5.1 1x 1v13.0 2v3.0 1x 18v3.0 3x 24v3.0 1x 9v3.0 1x 1v3.0 2x
  7v3.0 3x 1v3.0 4x 6v3.0 1x 1v3.0 1x 8v3.0 6x 10v7.0 2x 3v3.0 12x 58v1.1 4x 29v1.1 37x 2v1.1 1x
  1v1.1 1x 1v12.0 2v1.1 1v12.0 1v1.1 1x 1v12.0 1v1.1 6v12.0 4v1.1 1v12.0 7v1.1 1v12.0 3v1.1 1x
  1v1.1 1x 1v1.1 2v12.0 2v1.1 1v12.0 13v1.1 1v12.0 3v1.1 2x 5v1.1 1x 1v1.1 1x 6v1.1 1v15.0 1x
  10v1.1 2x 2v1.1 2v6.1 32x 72v2.0 1x 33v2.0 1v3.0 2v5.1 4x 27v2.0 4v6.0 6v2.0 1v3.0 1v2.0 1x
  21v2.0 3v3.0 7v2.0 1v3.0 1v2.0 3v3.0 1x 15v3.0 1x 1v5.1 1v3.0 2v4.1 3v5.1 4v5.2 2v6.0 37x 34v3.0
  1v5.1 5v3.0 1v5.1 2v3.0 1v5.1 7v3.0 3v5.1 4v3.0 6v5.1 26v3.0 64v5.1 4v5.2 2v5.1 38v1.1 1x 1v6.1
  5x 1v6.1 2x 39v1.1 2v3.2 2v4.1 1v1.1 1v4.1 3v6.1 90v1.1 5v5.2 68v1.1 5v5.2 82v1.1 6v5.2 7v3.0
  1v4.1 63v3.0 1v4.1 1v3.0 1x 4v3.0 2x 7v3.0 1x 1v3.0 1x 4v3.0 2x 39v3.0 1v4.1 1v3.0 1x 4v3.0 2x
  31v3.0 1v4.1 1v3.0 1x 4v3.0 2x 7v3.0 1x 1v3.0 1x 4v3.0 2x 7v3.0 1v4.1 7v3.0 1x 23v3.0 1v4.1
  31v3.0 1v4.1 1v3.0 1x 4v3.0 2x 7v3.0 1v4.1 39v3.0 1v4.1 19v3.0 2x 2v6.0 2v4.1 28v3.0 3x 26v4.1
  6x 85v3.0 1v8.0 2x 6v8.0 2x 1v5.2 630v3.0 9v5.2 29v3.0 3x 81v3.0 8v7.0 7x 13v3.2 1v14.0 7v3.2
  1v14.0 9x 1v14.0 23v3.2 9x 20v3.2 12x 13v3.2 1x 3v3.2 1x 2v3.2 12x 93v3.0 1v4.0 2x 10v3.0 6x
  10v4.0 6x 15v3.0 1v14.0 10v3.0 6x 88v3.0 1v11.0 7x 42v3.0 1v5.1 5x 70v5.2 10x 29v4.0 2v7.0 1x
  12v4.0 4x 12v4.0 4x 1v4.0 3x 42v4.0 2x 5v4.0 11x 42v4.1 2v5.2 4x 26v4.1 6x 10v4.1 1v5.2 3x 2v4.1
  32v4.0 28v4.1 2x 2v4.1 63v5.2 1x 29v5.2 2x 11v5.2 6x 10v5.2 6x 14v5.2 2x 15v7.0 2v13.0 14v14.0
  49x 76v5.0 1v14.0 1x 2v16.0 45v5.0 2v14.0 1v16.0 43v5.1 3v6.1 12v5.1 6v6.1 52v6.0 8x 4v6.0
  56v5.1 3x 15v5.1 3x 51v5.1 9v9.0 2v16.0 5x 43v11.0 2x 3v11.0 8v6.1 8x 35v5.2 4v6.1 1v10.0 2v7.0
  1v12.0 5x 108v4.0 88v4.1 7v5.0 28v5.1 15v7.0 4v10.0 1v14.0 1v9.0 1v6.0 1v5.2 2v5.0 155v1.1 1v2.0
  4v5.1 90v1.1 6v5.1 22v1.1 2x 6v1.1 2x 38v1.1 2x 6v1.1 2x 8v1.1 1x 1v1.1 1x 1v1.1 1x 1v1.1 1x
  31v1.1 2x 53v1.1 1x 15v1.1 1x 14v1.1 2x 6v1.1 1x 19v1.1 2x 3v1.1 1x 9v1.1 1x 47v1.1 1v3.0 23v1.1
  1v3.2 6v3.0 5v3.2 2v4.0 2v4.1 1v3.2 7v4.1 5v3.2 1v5.1 1x 4v6.3 7v1.1 1v3.2 2x 27v1.1 1x 5v4.1
  8v6.0 3x 11v1.1 1v2.0 1v2.1 3v3.0 2v3.2 4v4.1 3v5.2 1v6.0 1v6.2 3v7.0 1v8.0 1v10.0 1v14.0 15x
  18v1.1 2v3.0 7v3.2 1v4.1 4v5.0 1v5.1 15x 57v1.1 2v3.0 1v4.0 1v4.1 15v3.2 1v4.1 2v5.0 1v5.1 3v5.2
  48v1.1 1v3.0 1v5.0 4v5.1 1v5.2 2v8.0 4x 91v1.1 9v3.0 12v3.2 242v1.1 14v3.2 1v1.1 1v3.0 121v1.1
  1v3.0 1v3.2 30v3.0 52v3.2 2v4.0 11v4.1 12v5.0 1v5.2 11v6.0 7v7.0 4v9.0 1v10.0 37v1.1 2v3.0
  3v16.0 22x 11v1.1 21x 139v1.1 20v3.2 1v4.0 150v1.1 10v3.2 80v1.1 8v3.0 8v3.2 20v1.1 2v4.0 2v3.2
  1v4.1 1v3.0 86v1.1 2v3.0 12v3.2 2v4.1 10v3.2 8v4.0 11v4.1 1v5.1 2v5.2 2v4.0 16v4.1 1v5.0 10v5.1
  3v5.2 4v5.1 10v5.2 1v6.0 19v5.2 1v6.0 1v5.2 4v6.0 24v5.2 1v7.0 4v1.1 1v6.0 4v1.1 2v6.0 28v1.1
  1v6.0 35v1.1 1v6.0 1v1.1 1v6.0 4v1.1 3v6.0 1v1.1 1v5.2 7v1.1 2v6.0 7v1.1 14v3.2 31v1.1 3v6.0
  24v1.1 1v6.0 14v1.1 1v6.0 7v4.1 4v5.0 1v6.1 1v5.1 1v6.1 2v6.0 28v3.2 4v5.1 16v3.2 256v3.0
  512v3.2 14v4.0 6v4.1 7v5.0 5v5.1 4v5.0 41v5.1 3v7.0 5v5.1 5v5.2 26v7.0 2x 32v7.0 1x 1v13.0
  34v7.0 3v11.0 12v7.0 1v12.0 8v7.0 1v10.0 25v11.0 4v8.0 15v11.0 1v12.0 47v4.1 1v14.0 47v4.1
  1v14.0 13v5.0 3v5.1 1v5.2 3v5.1 4v5.0 6v5.1 2v5.2 107v4.1 7v5.2 2v6.1 5x 45v4.1 1x 1v6.1 5x
  1v6.1 2x 54v4.1 2v6.1 7x 1v4.1 1v6.0 14x 1v6.0 23v4.1 9x 7v4.1 1x 7v4.1 1x 7v4.1 1x 7v4.1 1x
  7v4.1 1x 7v4.1 1x 7v4.1 1x 7v4.1 1x 32v5.1 24v4.1 4v5.1 2v4.1 19v5.1 1v5.2 10v6.1 7v7.0 2v9.0
  5v10.0 5v11.0 1v12.0 3v13.0 11v14.0 34x 26v3.0 1x 89v3.0 12x 214v3.0 26x 12v3.0 4v15.1 56v1.1
  3v3.0 3v3.2 1v3.0 1v1.1 1x 84v1.1 2v3.2 2x 6v1.1 2v3.2 94v1.1 1v3.2 5x 40v1.1 1v5.1 1v10.0
  1v11.0 1x 94v1.1 1x 16v1.1 24v3.0 3v6.0 5v13.0 16v4.1 20v5.1 2v16.0 9x 1v15.1 16v3.2 29v1.1
  2v4.0 1x 36v1.1 12v5.2 1v4.0 15v3.2 28v1.1 2v4.0 1v4.1 50v1.1 15v3.2 12v1.1 4v4.0 47v1.1 1v12.1
  119v1.1 4v4.0 99v1.1 2v4.0 31v1.1 1v4.0 6582v3.0 10v13.0 64v4.0 20902v1.1 22v4.1 8v5.1 8v5.2
  1v6.1 9v8.0 21v10.0 5v11.0 13v13.0 3v14.0 1165v3.0 3x 18v3.0 2v3.2 16v3.0 1v3.2 12v3.0 1v3.2
  3v3.0 1v3.2 1v3.0 9x 48v5.2 300v5.1 20x 32v5.1 2v6.0 18v5.1 8v6.1 28v5.1 6v7.0 1v8.0 1v6.1
  88v5.2 8x 23v4.1 4v5.0 5v5.1 2v5.0 107v5.1 2v6.0 1v8.0 2v6.0 2v6.1 12v7.0 10v6.0 1v6.1 3v7.0
  1v9.0 1v11.0 2v7.0 6v8.0 2v11.0 6v12.0 2v14.0 5v12.0 4v13.0 3v16.0 2x 2v14.0 1x 1v14.0 1x 5v14.0
  3v16.0 21x 3v14.0 2v13.0 1v7.0 2v6.1 1v6.0 5v5.1 44v4.1 1v13.0 3x 10v5.2 6x 56v5.0 8x 69v5.1
  1v9.0 8x 12v5.1 6x 28v5.2 2v8.0 2v11.0 84v5.1 11x 1v5.1 29v5.2 3x 78v5.2 1x 11v5.2 4x 2v5.2
  31v7.0 1x 55v5.1 9x 14v5.1 2x 10v5.1 2x 4v5.1 28v5.2 4v7.0 67v5.2 24x 5v5.2 23v6.1 10x 6v6.0 2x
  6v6.0 2x 6v6.0 9x 7v6.0 1x 7v6.0 1x 48v7.0 4v8.0 2v7.0 2v12.0 4v13.0 4x 80v8.0 46v5.2 2x 10v5.2
  6x 11172v2.0 12x 23v5.2 4x 49v5.2 4x 2048v2.0 6702v1.1 2v6.1 59v3.2 3v5.2 2x 106v4.1 38x 7v1.1
  12x 5v1.1 5x 1v3.0 25v1.1 1x 5v1.1 1x 1v1.1 1x 2v1.1 1x 2v1.1 1x 108v1.1 16v6.0 1v14.0 16x
  365v1.1 16v14.0 64v1.1 2x 54v1.1 7x 1v14.0 32v3.1 12v1.1 1v3.2 1v4.0 2v14.0 16v3.2 10v4.1 6x
  4v1.1 3v5.1 7v7.0 2v8.0 21v1.1 2v3.2 2v4.0 10v1.1 1x 19v1.1 1x 4v1.1 4x 3v1.1 1v3.2 1v1.1 1x
  135v1.1 2x 1v1.1 1x 94v1.1 2v3.2 94v1.1 3x 6v1.1 2x 6v1.1 2x 6v1.1 2x 3v1.1 3x 7v1.1 1x 7v1.1
  10x 3v3.0 1v2.1 3v1.1 12v4.0 1x 26v4.0 1x 19v4.0 1x 2v4.0 1x 15v4.0 2x 14v4.0 34x 123v4.0 5x
  3v4.0 4x 45v4.0 3x 9v4.0 75v4.1 2v7.0 2v9.0 1x 12v5.1 1v13.0 3x 1v7.0 47x 46v5.1 130x 29v5.1 3x
  49v5.1 15x 28v7.0 4x 31v3.1 1v7.0 4v3.1 9x 3v10.0 27v3.1 5x 43v7.0 5x 30v4.0 1x 1v4.0 36v4.1 4x
  14v4.1 42x 38v3.1 2v4.0 38v3.1 80v4.0 2x 10v4.0 6x 36v9.0 4x 36v9.0 4x 40v7.0 8x 52v7.0 11x
  1v7.0 11v14.0 1x 15v14.0 1x 7v14.0 1x 2v14.0 1x 11v14.0 1x 15v14.0 1x 7v14.0 1x 2v14.0 3x
  52v16.0 12x 311v7.0 9x 22v7.0 10x 8v7.0 24x 6v14.0 1x 42v14.0 1x 9v14.0 69x 6v4.0 2x 1v4.0 1x
  44v4.0 1x 2v4.0 3x 1v4.0 2x 1v4.0 22v5.2 1x 9v5.2 63v7.0 8x 9v7.0 48x 19v8.0 1x 2v8.0 5x 5v8.0
  26v5.0 2v5.2 3x 1v5.0 26v5.1 5x 1v5.1 64x 56v6.1 4x 2v8.0 2v6.1 16v8.0 2x 46v8.0 4v4.1 1x 2v4.1
  5x 8v4.1 1x 3v4.1 1x 27v4.1 2v11.0 2x 3v4.1 4x 9v4.1 1v11.0 7x 9v4.1 7x 32v5.2 32v7.0 32x 39v7.0
  4x 12v7.0 9x 54v5.2 3x 29v5.2 2x 27v5.2 5x 8v5.2 18v7.0 7x 4v7.0 12x 7v7.0 80x 73v5.2 55x 51v8.0
  13x 51v8.0 7x 6v8.0 40v11.0 8x 10v11.0 6x 38v16.0 3x 29v16.0 8x 2v16.0 208x 31v5.2 1x 42v13.0 1x
  3v13.0 2x 2v13.0 16x 3v16.0 55x 1v16.0 3v15.0 40v11.0 8x 42v11.0 22x 26v14.0 38x 28v13.0 20x
  23v12.0 9x 78v6.0 4x 30v6.0 6v14.0 9x 1v7.0 66v5.2 1v14.0 10x 1v11.0 2x 25v6.1 7x 10v6.1 6x
  53v6.1 1x 14v6.1 3v11.0 1v13.0 8x 39v7.0 9x 73v6.1 4v8.0 1v7.0 2v13.0 10v6.1 1v7.0 5v8.0 1x
  20v7.0 11x 18v7.0 1x 43v7.0 1v9.0 3v15.0 62x 7v8.0 1x 1v8.0 1x 4v8.0 1x 15v8.0 1x 11v8.0 6x
  59v7.0 5x 10v7.0 6x 1v8.0 3v7.0 1x 8v7.0 2x 2v7.0 2x 22v7.0 1x 7v7.0 1x 2v7.0 1x 5v7.0 1x 1v11.0
  9v7.0 2x 2v7.0 2x 3v7.0 2x 1v8.0 6x 1v7.0 5x 7v7.0 2x 7v7.0 3x 5v7.0 11x 10v16.0 1x 1v16.0 2x
  1v16.0 1x 38v16.0 1x 10v16.0 1x 1v16.0 2x 1v16.0 1x 4v16.0 1x 10v16.0 1x 2v16.0 8x 2v16.0 29x
  90v9.0 1v13.0 1v9.0 1x 1v9.0 1v11.0 1v12.0 2v13.0 30x 72v7.0 8x 10v7.0 166x 54v7.0 2x 18v7.0
  20v8.0 34x 69v7.0 11x 10v7.0 6x 13v9.0 19x 56v6.1 1v12.0 1v14.0 6x 10v6.1 6x 20v16.0 28x 26v8.0
  1v11.0 2x 15v8.0 4x 16v8.0 7v14.0 185x 60v11.0 100x 83v7.0 12x 1v7.0 7v13.0 2x 1v13.0 2x 8v13.0
  1x 2v13.0 1x 30v13.0 1x 2v13.0 2x 12v13.0 9x 10v13.0 70x 8v12.0 2x 46v12.0 2x 11v12.0 27x
  72v10.0 8x 52v10.0 2v12.0 23v10.0 1v11.0 5v10.0 13x 16v14.0 57v7.0 7x 10v15.0 182x 34v16.0 14x
  10v16.0 6x 9v9.0 1x 45v9.0 1x 14v9.0 10x 29v9.0 3x 32v9.0 2x 22v9.0 1x 14v9.0 73x 7v10.0 1x
  2v10.0 1x 44v10.0 3x 1v10.0 1x 2v10.0 1x 9v10.0 8x 10v10.0 6x 6v11.0 1x 2v11.0 1x 37v11.0 1x
  2v11.0 1x 6v11.0 7x 10v11.0 310x 25v11.0 7x 17v15.0 1x 41v15.0 3x 28v15.0 1v16.0 85x 1v13.0 15x
  50v12.0 13x 1v12.0 879v5.0 42v7.0 1v8.0 102x 99v5.0 12v7.0 1x 4v5.0 1v7.0 11x 196v8.0 2636x
  99v14.0 13x 1071v5.2 1v15.0 9v12.0 29v15.0 10x 3995v16.0 5x 583v8.0 6841x 58v16.0 1734x 569v6.0
  7x 31v7.0 1x 10v7.0 4x 2v7.0 79v14.0 1x 10v14.0 6x 30v7.0 2x 6v7.0 10x 70v7.0 10x 10v7.0 1x
  7v7.0 1x 21v7.0 5x 19v7.0 432x 58v16.0 198x 91v11.0 101x 69v6.1 6v12.0 4x 1v12.0 47v6.1 9v12.0
  7x 17v6.1 64x 1v9.0 1v10.0 2v12.0 1v13.0 11x 2v13.0 14x 6125v9.0 5v11.0 6v12.0 8x 755v9.0
  483v13.0 41x 1v16.0 9v13.0 8935x 4v14.0 1x 7v14.0 1x 2v14.0 1x 2v6.0 285v10.0 4v14.0 15x 1v15.0
  29x 3v12.0 2x 1v15.0 14x 4v12.0 8x 396v10.0 2308x 107v7.0 5x 13v7.0 3x 9v7.0 7x 10v7.0 2x 8v7.0
  3932x 250v16.0 6x 436v16.0 76x 46v14.0 2x 23v14.0 9x 116v14.0 60x 246v3.1 10x 39v3.1 2x 1v5.1
  180v3.1 11v8.0 2v14.0 21x 70v4.1 122x 20v15.0 12x 20v11.0 12x 87v4.0 9x 18v5.0 7v11.0 135x
  85v3.1 1x 71v3.1 1x 2v3.1 2x 1v3.1 2x 2v3.1 2x 4v3.1 1x 12v3.1 1x 1v3.1 1x 4v3.1 1v4.0 2v3.1 1x
  65v3.1 1x 4v3.1 2x 8v3.1 1x 7v3.1 1x 28v3.1 1x 4v3.1 1x 5v3.1 1x 1v3.1 3x 7v3.1 1x 338v3.1 2v4.1
  2x 290v3.1 2v5.0 2x 50v3.1 652v8.0 15x 5v8.0 1x 15v8.0 1104x 31v14.0 6x 6v15.0 213x 7v9.0 1x
  17v9.0 2x 7v9.0 1x 2v9.0 1x 5v9.0 5x 62v15.0 33x 1v15.0 112x 45v12.0 3x 14v12.0 2x 10v12.0 4x
  2v12.0 320x 31v14.0 17x 58v12.0 5x 1v12.0 464x 42v15.0 214x 43v16.0 4x 1v16.0 480x 7v14.0 1x
  4v14.0 1x 2v14.0 1x 15v14.0 1x 197v7.0 2x 16v7.0 41x 75v9.0 1v12.0 4x 10v9.0 4x 2v9.0 785x
  68v11.0 76x 61v12.0 194x 4v6.1 1x 27v6.1 1x 2v6.1 1x 1v6.1 2x 1v6.1 1x 10v6.1 1x 4v6.1 1x 1v6.1
  1x 1v6.1 6x 1v6.1 4x 1v6.1 1x 1v6.1 1x 1v6.1 1x 3v6.1 1x 2v6.1 1x 1v6.1 2x 1v6.1 1x 1v6.1 1x
  1v6.1 1x 1v6.1 1x 1v6.1 1x 2v6.1 1x 1v6.1 2x 4v6.1 1x 7v6.1 1x 4v6.1 1x 4v6.1 1x 1v6.1 1x 10v6.1
  1x 17v6.1 5x 3v6.1 1x 5v6.1 1x 17v6.1 52x 2v6.1 270x 44v5.1 4x 100v5.1 12x 15v6.0 2x 14v6.0
  1v7.0 1x 15v6.0 1x 15v6.0 22v7.0 10x 11v5.2 2v7.0 3v13.0 31v5.2 1v11.0 1v6.0 1v5.2 11v6.0 1v5.2
  1v6.0 1v5.2 2v6.0 1v5.2 3v6.0 1v5.2 3v6.0 5v5.2 8v6.0 1v5.2 7v6.0 1v5.2 10v6.0 2v6.1 1v12.0
  3v13.0 9v6.0 1v5.2 1v6.0 2v5.2 2v6.0 1v5.2 10v6.0 4v5.2 2v6.0 1v5.2 10v6.0 18v9.0 1v13.0 56x
  26v6.0 1v5.2 2v6.0 13x 34v5.2 9v6.0 1v9.0 4x 9v5.2 7x 2v6.0 14x 6v10.0 154x 33v6.0 12v7.0 3v8.0
  6v6.0 1v7.0 70v6.0 1v7.0 2v8.0 20v6.0 12v7.0 37v6.0 1v7.0 5v6.0 4v7.0 5v8.0 12v7.0 17v6.0 7v7.0
  8v8.0 63v6.0 1v7.0 1v6.0 1v7.0 182v6.0 1v7.0 4v6.0 2v7.0 1v8.0 62v6.0 2v7.0 4v6.1 7v7.0 5v8.0
  24v6.0 18v7.0 1v9.0 41v7.0 1v9.0 86v7.0 5v6.0 1v6.1 16v6.0 1v6.1 3v6.0 1v6.1 1v6.0 1v6.1 1v6.0
  1v6.1 1v6.0 1v6.1 3v6.0 1v6.1 6v6.0 2v6.1 4v6.0 1v6.1 1v6.0 2v6.1 4v6.0 1v6.1 12v6.0 2v7.0 2v8.0
  11v6.0 48v7.0 70v6.0 10v7.0 1v8.0 2v9.0 2v10.0 1v12.0 2v13.0 4x 1v15.0 3v14.0 13v7.0 3x 4v7.0
  3v9.0 2v10.0 1v11.0 1v12.0 2v13.0 3x 116v6.0 3v15.0 4x 5v15.0 85v7.0 4v11.0 1v15.0 6x 12v12.0 4x
  1v14.0 15x 12v7.0 4x 56v7.0 8x 10v7.0 6x 40v7.0 8x 30v7.0 2x 2v13.0 10v16.0 4x 2v16.0 62x
  12v10.0 1v13.0 3v12.0 9v8.0 6v9.0 1v10.0 8v9.0 8v10.0 1v9.0 2v10.0 12v9.0 1v12.0 12v9.0 1v10.0
  3v11.0 15v9.0 13v10.0 5v11.0 1v12.0 1v13.0 4v11.0 2v13.0 1v14.0 1v11.0 1v12.0 4v11.0 5v8.0
  13v9.0 6v10.0 11v11.0 2v13.0 6v12.0 3v13.0 2v12.0 10v11.0 6v12.0 1v8.0 2v11.0 8v12.0 1v13.0
  1v14.0 3v12.0 23v10.0 25v11.0 84v12.0 12x 14v11.0 2x 4v12.0 1v13.0 3v15.0 3v12.0 2v14.0 3x
  3v12.0 4v13.0 2v15.0 1v16.0 5x 1v16.0 6v12.0 19v13.0 4v14.0 3v15.0 7v13.0 4v14.0 3v15.0 1v16.0
  1v15.0 3v13.0 3v14.0 1v16.0 7x 2v15.0 7v13.0 3v14.0 2v15.0 1v16.0 2x 1v16.0 8v14.0 1v15.0 1v16.0
  6x 7v14.0 2v15.0 7x 147v13.0 1x 55v13.0 37v16.0 10v13.0 1028x 2v2.0 42711v3.1 7v13.0 2v14.0 32x
  4149v5.2 4v14.0 1v15.0 6x 222v6.0 2x 5762v8.0 14x 7473v10.0 15x 622v15.1 2466x 542v3.1 1504x
  2v2.0 4939v13.0 5x 4192v15.0 56398x 2v2.0 65534x 2v2.0 65534x 2v2.0 65534x 2v2.0 65534x 2v2.0
  65534x 2v2.0 65534x 2v2.0 65534x 2v2.0 65534x 2v2.0 65534x 2v2.0 65534x 2v2.0 1x 1v3.1 30x
  96v3.1 128x 240v4.0 65038x 131074v2.0"

end Conformance.Regex.Tables
