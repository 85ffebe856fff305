import RecordQuery.Text.Category

/-!
Contract: the Unicode 16.0 classes that text segmentation gives each code point, for grapheme
clusters, words and sentences.

Owns:
- `Text.Segmentation`, the three segmentations;
- the run tables of each (`graphemeBreakTable`, `wordBreakTable`, `sentenceBreakTable`): the
  start of every run of one class, then `:` and the class's short name;
- `Segmentation.valueNames`: each class's short name and long name;
- `Segmentation.classSet?`: the code points of a class given by its short name; none for the
  default class `XX` (Other) and for classes no code point has, which have no table.
-/

set_option autoImplicit false

namespace RecordQuery

namespace Text

/-- A kind of text segment whose boundaries the classes describe. -/
inductive Segmentation where
  | grapheme
  | word
  | sentence

/-- Runs of the grapheme cluster classes. -/
def graphemeBreakTable : String :=
  String.join [
    "0:CN A:LF B:CN D:CR E:CN 20:XX 7F:CN A0:XX AD:CN AE:XX 300:EX 370:XX 483:EX 48A:XX 591:EX 5BE:XX ",
    "5BF:EX 5C0:XX 5C1:EX 5C3:XX 5C4:EX 5C6:XX 5C7:EX 5C8:XX 600:PP 606:XX 610:EX 61B:XX 61C:CN ",
    "61D:XX 64B:EX 660:XX 670:EX 671:XX 6D6:EX 6DD:PP 6DE:XX 6DF:EX 6E5:XX 6E7:EX 6E9:XX 6EA:EX ",
    "6EE:XX 70F:PP 710:XX 711:EX 712:XX 730:EX 74B:XX 7A6:EX 7B1:XX 7EB:EX 7F4:XX 7FD:EX 7FE:XX ",
    "816:EX 81A:XX 81B:EX 824:XX 825:EX 828:XX 829:EX 82E:XX 859:EX 85C:XX 890:PP 892:XX 897:EX ",
    "8A0:XX 8CA:EX 8E2:PP 8E3:EX 903:SM 904:XX 93A:EX 93B:SM 93C:EX 93D:XX 93E:SM 941:EX 949:SM ",
    "94D:EX 94E:SM 950:XX 951:EX 958:XX 962:EX 964:XX 981:EX 982:SM 984:XX 9BC:EX 9BD:XX 9BE:EX ",
    "9BF:SM 9C1:EX 9C5:XX 9C7:SM 9C9:XX 9CB:SM 9CD:EX 9CE:XX 9D7:EX 9D8:XX 9E2:EX 9E4:XX 9FE:EX ",
    "9FF:XX A01:EX A03:SM A04:XX A3C:EX A3D:XX A3E:SM A41:EX A43:XX A47:EX A49:XX A4B:EX A4E:XX ",
    "A51:EX A52:XX A70:EX A72:XX A75:EX A76:XX A81:EX A83:SM A84:XX ABC:EX ABD:XX ABE:SM AC1:EX ",
    "AC6:XX AC7:EX AC9:SM ACA:XX ACB:SM ACD:EX ACE:XX AE2:EX AE4:XX AFA:EX B00:XX B01:EX B02:SM ",
    "B04:XX B3C:EX B3D:XX B3E:EX B40:SM B41:EX B45:XX B47:SM B49:XX B4B:SM B4D:EX B4E:XX B55:EX ",
    "B58:XX B62:EX B64:XX B82:EX B83:XX BBE:EX BBF:SM BC0:EX BC1:SM BC3:XX BC6:SM BC9:XX BCA:SM ",
    "BCD:EX BCE:XX BD7:EX BD8:XX C00:EX C01:SM C04:EX C05:XX C3C:EX C3D:XX C3E:EX C41:SM C45:XX ",
    "C46:EX C49:XX C4A:EX C4E:XX C55:EX C57:XX C62:EX C64:XX C81:EX C82:SM C84:XX CBC:EX CBD:XX ",
    "CBE:SM CBF:EX CC1:SM CC2:EX CC3:SM CC5:XX CC6:EX CC9:XX CCA:EX CCE:XX CD5:EX CD7:XX CE2:EX ",
    "CE4:XX CF3:SM CF4:XX D00:EX D02:SM D04:XX D3B:EX D3D:XX D3E:EX D3F:SM D41:EX D45:XX D46:SM ",
    "D49:XX D4A:SM D4D:EX D4E:PP D4F:XX D57:EX D58:XX D62:EX D64:XX D81:EX D82:SM D84:XX DCA:EX ",
    "DCB:XX DCF:EX DD0:SM DD2:EX DD5:XX DD6:EX DD7:XX DD8:SM DDF:EX DE0:XX DF2:SM DF4:XX E31:EX ",
    "E32:XX E33:SM E34:EX E3B:XX E47:EX E4F:XX EB1:EX EB2:XX EB3:SM EB4:EX EBD:XX EC8:EX ECF:XX ",
    "F18:EX F1A:XX F35:EX F36:XX F37:EX F38:XX F39:EX F3A:XX F3E:SM F40:XX F71:EX F7F:SM F80:EX ",
    "F85:XX F86:EX F88:XX F8D:EX F98:XX F99:EX FBD:XX FC6:EX FC7:XX 102D:EX 1031:SM 1032:EX 1038:XX ",
    "1039:EX 103B:SM 103D:EX 103F:XX 1056:SM 1058:EX 105A:XX 105E:EX 1061:XX 1071:EX 1075:XX 1082:EX ",
    "1083:XX 1084:SM 1085:EX 1087:XX 108D:EX 108E:XX 109D:EX 109E:XX 1100:L 1160:V 11A8:T 1200:XX ",
    "135D:EX 1360:XX 1712:EX 1716:XX 1732:EX 1735:XX 1752:EX 1754:XX 1772:EX 1774:XX 17B4:EX 17B6:SM ",
    "17B7:EX 17BE:SM 17C6:EX 17C7:SM 17C9:EX 17D4:XX 17DD:EX 17DE:XX 180B:EX 180E:CN 180F:EX 1810:XX ",
    "1885:EX 1887:XX 18A9:EX 18AA:XX 1920:EX 1923:SM 1927:EX 1929:SM 192C:XX 1930:SM 1932:EX 1933:SM ",
    "1939:EX 193C:XX 1A17:EX 1A19:SM 1A1B:EX 1A1C:XX 1A55:SM 1A56:EX 1A57:SM 1A58:EX 1A5F:XX 1A60:EX ",
    "1A61:XX 1A62:EX 1A63:XX 1A65:EX 1A6D:SM 1A73:EX 1A7D:XX 1A7F:EX 1A80:XX 1AB0:EX 1ACF:XX 1B00:EX ",
    "1B04:SM 1B05:XX 1B34:EX 1B3E:SM 1B42:EX 1B45:XX 1B6B:EX 1B74:XX 1B80:EX 1B82:SM 1B83:XX 1BA1:SM ",
    "1BA2:EX 1BA6:SM 1BA8:EX 1BAE:XX 1BE6:EX 1BE7:SM 1BE8:EX 1BEA:SM 1BED:EX 1BEE:SM 1BEF:EX 1BF4:XX ",
    "1C24:SM 1C2C:EX 1C34:SM 1C36:EX 1C38:XX 1CD0:EX 1CD3:XX 1CD4:EX 1CE1:SM 1CE2:EX 1CE9:XX 1CED:EX ",
    "1CEE:XX 1CF4:EX 1CF5:XX 1CF7:SM 1CF8:EX 1CFA:XX 1DC0:EX 1E00:XX 200B:CN 200C:EX 200D:ZWJ 200E:CN ",
    "2010:XX 2028:CN 202F:XX 2060:CN 2070:XX 20D0:EX 20F1:XX 2CEF:EX 2CF2:XX 2D7F:EX 2D80:XX 2DE0:EX ",
    "2E00:XX 302A:EX 3030:XX 3099:EX 309B:XX A66F:EX A673:XX A674:EX A67E:XX A69E:EX A6A0:XX A6F0:EX ",
    "A6F2:XX A802:EX A803:XX A806:EX A807:XX A80B:EX A80C:XX A823:SM A825:EX A827:SM A828:XX A82C:EX ",
    "A82D:XX A880:SM A882:XX A8B4:SM A8C4:EX A8C6:XX A8E0:EX A8F2:XX A8FF:EX A900:XX A926:EX A92E:XX ",
    "A947:EX A952:SM A953:EX A954:XX A960:L A97D:XX A980:EX A983:SM A984:XX A9B3:EX A9B4:SM A9B6:EX ",
    "A9BA:SM A9BC:EX A9BE:SM A9C0:EX A9C1:XX A9E5:EX A9E6:XX AA29:EX AA2F:SM AA31:EX AA33:SM AA35:EX ",
    "AA37:XX AA43:EX AA44:XX AA4C:EX AA4D:SM AA4E:XX AA7C:EX AA7D:XX AAB0:EX AAB1:XX AAB2:EX AAB5:XX ",
    "AAB7:EX AAB9:XX AABE:EX AAC0:XX AAC1:EX AAC2:XX AAEB:SM AAEC:EX AAEE:SM AAF0:XX AAF5:SM AAF6:EX ",
    "AAF7:XX ABE3:SM ABE5:EX ABE6:SM ABE8:EX ABE9:SM ABEB:XX ABEC:SM ABED:EX ABEE:XX AC00:LV AC01:LVT ",
    "AC1C:LV AC1D:LVT AC38:LV AC39:LVT AC54:LV AC55:LVT AC70:LV AC71:LVT AC8C:LV AC8D:LVT ACA8:LV ",
    "ACA9:LVT ACC4:LV ACC5:LVT ACE0:LV ACE1:LVT ACFC:LV ACFD:LVT AD18:LV AD19:LVT AD34:LV AD35:LVT ",
    "AD50:LV AD51:LVT AD6C:LV AD6D:LVT AD88:LV AD89:LVT ADA4:LV ADA5:LVT ADC0:LV ADC1:LVT ADDC:LV ",
    "ADDD:LVT ADF8:LV ADF9:LVT AE14:LV AE15:LVT AE30:LV AE31:LVT AE4C:LV AE4D:LVT AE68:LV AE69:LVT ",
    "AE84:LV AE85:LVT AEA0:LV AEA1:LVT AEBC:LV AEBD:LVT AED8:LV AED9:LVT AEF4:LV AEF5:LVT AF10:LV ",
    "AF11:LVT AF2C:LV AF2D:LVT AF48:LV AF49:LVT AF64:LV AF65:LVT AF80:LV AF81:LVT AF9C:LV AF9D:LVT ",
    "AFB8:LV AFB9:LVT AFD4:LV AFD5:LVT AFF0:LV AFF1:LVT B00C:LV B00D:LVT B028:LV B029:LVT B044:LV ",
    "B045:LVT B060:LV B061:LVT B07C:LV B07D:LVT B098:LV B099:LVT B0B4:LV B0B5:LVT B0D0:LV B0D1:LVT ",
    "B0EC:LV B0ED:LVT B108:LV B109:LVT B124:LV B125:LVT B140:LV B141:LVT B15C:LV B15D:LVT B178:LV ",
    "B179:LVT B194:LV B195:LVT B1B0:LV B1B1:LVT B1CC:LV B1CD:LVT B1E8:LV B1E9:LVT B204:LV B205:LVT ",
    "B220:LV B221:LVT B23C:LV B23D:LVT B258:LV B259:LVT B274:LV B275:LVT B290:LV B291:LVT B2AC:LV ",
    "B2AD:LVT B2C8:LV B2C9:LVT B2E4:LV B2E5:LVT B300:LV B301:LVT B31C:LV B31D:LVT B338:LV B339:LVT ",
    "B354:LV B355:LVT B370:LV B371:LVT B38C:LV B38D:LVT B3A8:LV B3A9:LVT B3C4:LV B3C5:LVT B3E0:LV ",
    "B3E1:LVT B3FC:LV B3FD:LVT B418:LV B419:LVT B434:LV B435:LVT B450:LV B451:LVT B46C:LV B46D:LVT ",
    "B488:LV B489:LVT B4A4:LV B4A5:LVT B4C0:LV B4C1:LVT B4DC:LV B4DD:LVT B4F8:LV B4F9:LVT B514:LV ",
    "B515:LVT B530:LV B531:LVT B54C:LV B54D:LVT B568:LV B569:LVT B584:LV B585:LVT B5A0:LV B5A1:LVT ",
    "B5BC:LV B5BD:LVT B5D8:LV B5D9:LVT B5F4:LV B5F5:LVT B610:LV B611:LVT B62C:LV B62D:LVT B648:LV ",
    "B649:LVT B664:LV B665:LVT B680:LV B681:LVT B69C:LV B69D:LVT B6B8:LV B6B9:LVT B6D4:LV B6D5:LVT ",
    "B6F0:LV B6F1:LVT B70C:LV B70D:LVT B728:LV B729:LVT B744:LV B745:LVT B760:LV B761:LVT B77C:LV ",
    "B77D:LVT B798:LV B799:LVT B7B4:LV B7B5:LVT B7D0:LV B7D1:LVT B7EC:LV B7ED:LVT B808:LV B809:LVT ",
    "B824:LV B825:LVT B840:LV B841:LVT B85C:LV B85D:LVT B878:LV B879:LVT B894:LV B895:LVT B8B0:LV ",
    "B8B1:LVT B8CC:LV B8CD:LVT B8E8:LV B8E9:LVT B904:LV B905:LVT B920:LV B921:LVT B93C:LV B93D:LVT ",
    "B958:LV B959:LVT B974:LV B975:LVT B990:LV B991:LVT B9AC:LV B9AD:LVT B9C8:LV B9C9:LVT B9E4:LV ",
    "B9E5:LVT BA00:LV BA01:LVT BA1C:LV BA1D:LVT BA38:LV BA39:LVT BA54:LV BA55:LVT BA70:LV BA71:LVT ",
    "BA8C:LV BA8D:LVT BAA8:LV BAA9:LVT BAC4:LV BAC5:LVT BAE0:LV BAE1:LVT BAFC:LV BAFD:LVT BB18:LV ",
    "BB19:LVT BB34:LV BB35:LVT BB50:LV BB51:LVT BB6C:LV BB6D:LVT BB88:LV BB89:LVT BBA4:LV BBA5:LVT ",
    "BBC0:LV BBC1:LVT BBDC:LV BBDD:LVT BBF8:LV BBF9:LVT BC14:LV BC15:LVT BC30:LV BC31:LVT BC4C:LV ",
    "BC4D:LVT BC68:LV BC69:LVT BC84:LV BC85:LVT BCA0:LV BCA1:LVT BCBC:LV BCBD:LVT BCD8:LV BCD9:LVT ",
    "BCF4:LV BCF5:LVT BD10:LV BD11:LVT BD2C:LV BD2D:LVT BD48:LV BD49:LVT BD64:LV BD65:LVT BD80:LV ",
    "BD81:LVT BD9C:LV BD9D:LVT BDB8:LV BDB9:LVT BDD4:LV BDD5:LVT BDF0:LV BDF1:LVT BE0C:LV BE0D:LVT ",
    "BE28:LV BE29:LVT BE44:LV BE45:LVT BE60:LV BE61:LVT BE7C:LV BE7D:LVT BE98:LV BE99:LVT BEB4:LV ",
    "BEB5:LVT BED0:LV BED1:LVT BEEC:LV BEED:LVT BF08:LV BF09:LVT BF24:LV BF25:LVT BF40:LV BF41:LVT ",
    "BF5C:LV BF5D:LVT BF78:LV BF79:LVT BF94:LV BF95:LVT BFB0:LV BFB1:LVT BFCC:LV BFCD:LVT BFE8:LV ",
    "BFE9:LVT C004:LV C005:LVT C020:LV C021:LVT C03C:LV C03D:LVT C058:LV C059:LVT C074:LV C075:LVT ",
    "C090:LV C091:LVT C0AC:LV C0AD:LVT C0C8:LV C0C9:LVT C0E4:LV C0E5:LVT C100:LV C101:LVT C11C:LV ",
    "C11D:LVT C138:LV C139:LVT C154:LV C155:LVT C170:LV C171:LVT C18C:LV C18D:LVT C1A8:LV C1A9:LVT ",
    "C1C4:LV C1C5:LVT C1E0:LV C1E1:LVT C1FC:LV C1FD:LVT C218:LV C219:LVT C234:LV C235:LVT C250:LV ",
    "C251:LVT C26C:LV C26D:LVT C288:LV C289:LVT C2A4:LV C2A5:LVT C2C0:LV C2C1:LVT C2DC:LV C2DD:LVT ",
    "C2F8:LV C2F9:LVT C314:LV C315:LVT C330:LV C331:LVT C34C:LV C34D:LVT C368:LV C369:LVT C384:LV ",
    "C385:LVT C3A0:LV C3A1:LVT C3BC:LV C3BD:LVT C3D8:LV C3D9:LVT C3F4:LV C3F5:LVT C410:LV C411:LVT ",
    "C42C:LV C42D:LVT C448:LV C449:LVT C464:LV C465:LVT C480:LV C481:LVT C49C:LV C49D:LVT C4B8:LV ",
    "C4B9:LVT C4D4:LV C4D5:LVT C4F0:LV C4F1:LVT C50C:LV C50D:LVT C528:LV C529:LVT C544:LV C545:LVT ",
    "C560:LV C561:LVT C57C:LV C57D:LVT C598:LV C599:LVT C5B4:LV C5B5:LVT C5D0:LV C5D1:LVT C5EC:LV ",
    "C5ED:LVT C608:LV C609:LVT C624:LV C625:LVT C640:LV C641:LVT C65C:LV C65D:LVT C678:LV C679:LVT ",
    "C694:LV C695:LVT C6B0:LV C6B1:LVT C6CC:LV C6CD:LVT C6E8:LV C6E9:LVT C704:LV C705:LVT C720:LV ",
    "C721:LVT C73C:LV C73D:LVT C758:LV C759:LVT C774:LV C775:LVT C790:LV C791:LVT C7AC:LV C7AD:LVT ",
    "C7C8:LV C7C9:LVT C7E4:LV C7E5:LVT C800:LV C801:LVT C81C:LV C81D:LVT C838:LV C839:LVT C854:LV ",
    "C855:LVT C870:LV C871:LVT C88C:LV C88D:LVT C8A8:LV C8A9:LVT C8C4:LV C8C5:LVT C8E0:LV C8E1:LVT ",
    "C8FC:LV C8FD:LVT C918:LV C919:LVT C934:LV C935:LVT C950:LV C951:LVT C96C:LV C96D:LVT C988:LV ",
    "C989:LVT C9A4:LV C9A5:LVT C9C0:LV C9C1:LVT C9DC:LV C9DD:LVT C9F8:LV C9F9:LVT CA14:LV CA15:LVT ",
    "CA30:LV CA31:LVT CA4C:LV CA4D:LVT CA68:LV CA69:LVT CA84:LV CA85:LVT CAA0:LV CAA1:LVT CABC:LV ",
    "CABD:LVT CAD8:LV CAD9:LVT CAF4:LV CAF5:LVT CB10:LV CB11:LVT CB2C:LV CB2D:LVT CB48:LV CB49:LVT ",
    "CB64:LV CB65:LVT CB80:LV CB81:LVT CB9C:LV CB9D:LVT CBB8:LV CBB9:LVT CBD4:LV CBD5:LVT CBF0:LV ",
    "CBF1:LVT CC0C:LV CC0D:LVT CC28:LV CC29:LVT CC44:LV CC45:LVT CC60:LV CC61:LVT CC7C:LV CC7D:LVT ",
    "CC98:LV CC99:LVT CCB4:LV CCB5:LVT CCD0:LV CCD1:LVT CCEC:LV CCED:LVT CD08:LV CD09:LVT CD24:LV ",
    "CD25:LVT CD40:LV CD41:LVT CD5C:LV CD5D:LVT CD78:LV CD79:LVT CD94:LV CD95:LVT CDB0:LV CDB1:LVT ",
    "CDCC:LV CDCD:LVT CDE8:LV CDE9:LVT CE04:LV CE05:LVT CE20:LV CE21:LVT CE3C:LV CE3D:LVT CE58:LV ",
    "CE59:LVT CE74:LV CE75:LVT CE90:LV CE91:LVT CEAC:LV CEAD:LVT CEC8:LV CEC9:LVT CEE4:LV CEE5:LVT ",
    "CF00:LV CF01:LVT CF1C:LV CF1D:LVT CF38:LV CF39:LVT CF54:LV CF55:LVT CF70:LV CF71:LVT CF8C:LV ",
    "CF8D:LVT CFA8:LV CFA9:LVT CFC4:LV CFC5:LVT CFE0:LV CFE1:LVT CFFC:LV CFFD:LVT D018:LV D019:LVT ",
    "D034:LV D035:LVT D050:LV D051:LVT D06C:LV D06D:LVT D088:LV D089:LVT D0A4:LV D0A5:LVT D0C0:LV ",
    "D0C1:LVT D0DC:LV D0DD:LVT D0F8:LV D0F9:LVT D114:LV D115:LVT D130:LV D131:LVT D14C:LV D14D:LVT ",
    "D168:LV D169:LVT D184:LV D185:LVT D1A0:LV D1A1:LVT D1BC:LV D1BD:LVT D1D8:LV D1D9:LVT D1F4:LV ",
    "D1F5:LVT D210:LV D211:LVT D22C:LV D22D:LVT D248:LV D249:LVT D264:LV D265:LVT D280:LV D281:LVT ",
    "D29C:LV D29D:LVT D2B8:LV D2B9:LVT D2D4:LV D2D5:LVT D2F0:LV D2F1:LVT D30C:LV D30D:LVT D328:LV ",
    "D329:LVT D344:LV D345:LVT D360:LV D361:LVT D37C:LV D37D:LVT D398:LV D399:LVT D3B4:LV D3B5:LVT ",
    "D3D0:LV D3D1:LVT D3EC:LV D3ED:LVT D408:LV D409:LVT D424:LV D425:LVT D440:LV D441:LVT D45C:LV ",
    "D45D:LVT D478:LV D479:LVT D494:LV D495:LVT D4B0:LV D4B1:LVT D4CC:LV D4CD:LVT D4E8:LV D4E9:LVT ",
    "D504:LV D505:LVT D520:LV D521:LVT D53C:LV D53D:LVT D558:LV D559:LVT D574:LV D575:LVT D590:LV ",
    "D591:LVT D5AC:LV D5AD:LVT D5C8:LV D5C9:LVT D5E4:LV D5E5:LVT D600:LV D601:LVT D61C:LV D61D:LVT ",
    "D638:LV D639:LVT D654:LV D655:LVT D670:LV D671:LVT D68C:LV D68D:LVT D6A8:LV D6A9:LVT D6C4:LV ",
    "D6C5:LVT D6E0:LV D6E1:LVT D6FC:LV D6FD:LVT D718:LV D719:LVT D734:LV D735:LVT D750:LV D751:LVT ",
    "D76C:LV D76D:LVT D788:LV D789:LVT D7A4:XX D7B0:V D7C7:XX D7CB:T D7FC:XX FB1E:EX FB1F:XX FE00:EX ",
    "FE10:XX FE20:EX FE30:XX FEFF:CN FF00:XX FF9E:EX FFA0:XX FFF0:CN FFFC:XX 101FD:EX 101FE:XX ",
    "102E0:EX 102E1:XX 10376:EX 1037B:XX 10A01:EX 10A04:XX 10A05:EX 10A07:XX 10A0C:EX 10A10:XX ",
    "10A38:EX 10A3B:XX 10A3F:EX 10A40:XX 10AE5:EX 10AE7:XX 10D24:EX 10D28:XX 10D69:EX 10D6E:XX ",
    "10EAB:EX 10EAD:XX 10EFC:EX 10F00:XX 10F46:EX 10F51:XX 10F82:EX 10F86:XX 11000:SM 11001:EX ",
    "11002:SM 11003:XX 11038:EX 11047:XX 11070:EX 11071:XX 11073:EX 11075:XX 1107F:EX 11082:SM ",
    "11083:XX 110B0:SM 110B3:EX 110B7:SM 110B9:EX 110BB:XX 110BD:PP 110BE:XX 110C2:EX 110C3:XX ",
    "110CD:PP 110CE:XX 11100:EX 11103:XX 11127:EX 1112C:SM 1112D:EX 11135:XX 11145:SM 11147:XX ",
    "11173:EX 11174:XX 11180:EX 11182:SM 11183:XX 111B3:SM 111B6:EX 111BF:SM 111C0:EX 111C1:XX ",
    "111C2:PP 111C4:XX 111C9:EX 111CD:XX 111CE:SM 111CF:EX 111D0:XX 1122C:SM 1122F:EX 11232:SM ",
    "11234:EX 11238:XX 1123E:EX 1123F:XX 11241:EX 11242:XX 112DF:EX 112E0:SM 112E3:EX 112EB:XX ",
    "11300:EX 11302:SM 11304:XX 1133B:EX 1133D:XX 1133E:EX 1133F:SM 11340:EX 11341:SM 11345:XX ",
    "11347:SM 11349:XX 1134B:SM 1134D:EX 1134E:XX 11357:EX 11358:XX 11362:SM 11364:XX 11366:EX ",
    "1136D:XX 11370:EX 11375:XX 113B8:EX 113B9:SM 113BB:EX 113C1:XX 113C2:EX 113C3:XX 113C5:EX ",
    "113C6:XX 113C7:EX 113CA:SM 113CB:XX 113CC:SM 113CE:EX 113D1:PP 113D2:EX 113D3:XX 113E1:EX ",
    "113E3:XX 11435:SM 11438:EX 11440:SM 11442:EX 11445:SM 11446:EX 11447:XX 1145E:EX 1145F:XX ",
    "114B0:EX 114B1:SM 114B3:EX 114B9:SM 114BA:EX 114BB:SM 114BD:EX 114BE:SM 114BF:EX 114C1:SM ",
    "114C2:EX 114C4:XX 115AF:EX 115B0:SM 115B2:EX 115B6:XX 115B8:SM 115BC:EX 115BE:SM 115BF:EX ",
    "115C1:XX 115DC:EX 115DE:XX 11630:SM 11633:EX 1163B:SM 1163D:EX 1163E:SM 1163F:EX 11641:XX ",
    "116AB:EX 116AC:SM 116AD:EX 116AE:SM 116B0:EX 116B8:XX 1171D:EX 1171E:SM 1171F:EX 11720:XX ",
    "11722:EX 11726:SM 11727:EX 1172C:XX 1182C:SM 1182F:EX 11838:SM 11839:EX 1183B:XX 11930:EX ",
    "11931:SM 11936:XX 11937:SM 11939:XX 1193B:EX 1193F:PP 11940:SM 11941:PP 11942:SM 11943:EX ",
    "11944:XX 119D1:SM 119D4:EX 119D8:XX 119DA:EX 119DC:SM 119E0:EX 119E1:XX 119E4:SM 119E5:XX ",
    "11A01:EX 11A0B:XX 11A33:EX 11A39:SM 11A3A:PP 11A3B:EX 11A3F:XX 11A47:EX 11A48:XX 11A51:EX ",
    "11A57:SM 11A59:EX 11A5C:XX 11A84:PP 11A8A:EX 11A97:SM 11A98:EX 11A9A:XX 11C2F:SM 11C30:EX ",
    "11C37:XX 11C38:EX 11C3E:SM 11C3F:EX 11C40:XX 11C92:EX 11CA8:XX 11CA9:SM 11CAA:EX 11CB1:SM ",
    "11CB2:EX 11CB4:SM 11CB5:EX 11CB7:XX 11D31:EX 11D37:XX 11D3A:EX 11D3B:XX 11D3C:EX 11D3E:XX ",
    "11D3F:EX 11D46:PP 11D47:EX 11D48:XX 11D8A:SM 11D8F:XX 11D90:EX 11D92:XX 11D93:SM 11D95:EX ",
    "11D96:SM 11D97:EX 11D98:XX 11EF3:EX 11EF5:SM 11EF7:XX 11F00:EX 11F02:PP 11F03:SM 11F04:XX ",
    "11F34:SM 11F36:EX 11F3B:XX 11F3E:SM 11F40:EX 11F43:XX 11F5A:EX 11F5B:XX 13430:CN 13440:EX ",
    "13441:XX 13447:EX 13456:XX 1611E:EX 1612A:SM 1612D:EX 16130:XX 16AF0:EX 16AF5:XX 16B30:EX ",
    "16B37:XX 16D63:V 16D64:XX 16D67:V 16D6B:XX 16F4F:EX 16F50:XX 16F51:SM 16F88:XX 16F8F:EX 16F93:XX ",
    "16FE4:EX 16FE5:XX 16FF0:EX 16FF2:XX 1BC9D:EX 1BC9F:XX 1BCA0:CN 1BCA4:XX 1CF00:EX 1CF2E:XX ",
    "1CF30:EX 1CF47:XX 1D165:EX 1D16A:XX 1D16D:EX 1D173:CN 1D17B:EX 1D183:XX 1D185:EX 1D18C:XX ",
    "1D1AA:EX 1D1AE:XX 1D242:EX 1D245:XX 1DA00:EX 1DA37:XX 1DA3B:EX 1DA6D:XX 1DA75:EX 1DA76:XX ",
    "1DA84:EX 1DA85:XX 1DA9B:EX 1DAA0:XX 1DAA1:EX 1DAB0:XX 1E000:EX 1E007:XX 1E008:EX 1E019:XX ",
    "1E01B:EX 1E022:XX 1E023:EX 1E025:XX 1E026:EX 1E02B:XX 1E08F:EX 1E090:XX 1E130:EX 1E137:XX ",
    "1E2AE:EX 1E2AF:XX 1E2EC:EX 1E2F0:XX 1E4EC:EX 1E4F0:XX 1E5EE:EX 1E5F0:XX 1E8D0:EX 1E8D7:XX ",
    "1E944:EX 1E94B:XX 1F1E6:RI 1F200:XX 1F3FB:EX 1F400:XX E0000:CN E0020:EX E0080:CN E0100:EX ",
    "E01F0:CN E1000:XX"]

/-- Runs of the word classes. -/
def wordBreakTable : String :=
  String.join [
    "0:XX A:LF B:NL D:CR E:XX 20:WSegSpace 21:XX 22:DQ 23:XX 27:SQ 28:XX 2C:MN 2D:XX 2E:MB 2F:XX ",
    "30:NU 3A:ML 3B:MN 3C:XX 41:LE 5B:XX 5F:EX 60:XX 61:LE 7B:XX 85:NL 86:XX AA:LE AB:XX AD:FO AE:XX ",
    "B5:LE B6:XX B7:ML B8:XX BA:LE BB:XX C0:LE D7:XX D8:LE F7:XX F8:LE 2D8:XX 2DE:LE 300:Extend ",
    "370:LE 375:XX 376:LE 378:XX 37A:LE 37E:MN 37F:LE 380:XX 386:LE 387:ML 388:LE 38B:XX 38C:LE ",
    "38D:XX 38E:LE 3A2:XX 3A3:LE 3F6:XX 3F7:LE 482:XX 483:Extend 48A:LE 530:XX 531:LE 557:XX 559:LE ",
    "55D:XX 55E:LE 55F:ML 560:LE 589:MN 58A:LE 58B:XX 591:Extend 5BE:XX 5BF:Extend 5C0:XX 5C1:Extend ",
    "5C3:XX 5C4:Extend 5C6:XX 5C7:Extend 5C8:XX 5D0:HL 5EB:XX 5EF:HL 5F3:LE 5F4:ML 5F5:XX 600:FO ",
    "606:XX 60C:MN 60E:XX 610:Extend 61B:XX 61C:FO 61D:XX 620:LE 64B:Extend 660:NU 66A:XX 66B:NU ",
    "66C:MN 66D:XX 66E:LE 670:Extend 671:LE 6D4:XX 6D5:LE 6D6:Extend 6DD:FO 6DE:XX 6DF:Extend 6E5:LE ",
    "6E7:Extend 6E9:XX 6EA:Extend 6EE:LE 6F0:NU 6FA:LE 6FD:XX 6FF:LE 700:XX 70F:LE 711:Extend 712:LE ",
    "730:Extend 74B:XX 74D:LE 7A6:Extend 7B1:LE 7B2:XX 7C0:NU 7CA:LE 7EB:Extend 7F4:LE 7F6:XX 7F8:MN ",
    "7F9:XX 7FA:LE 7FB:XX 7FD:Extend 7FE:XX 800:LE 816:Extend 81A:LE 81B:Extend 824:LE 825:Extend ",
    "828:LE 829:Extend 82E:XX 840:LE 859:Extend 85C:XX 860:LE 86B:XX 870:LE 888:XX 889:LE 88F:XX ",
    "890:FO 892:XX 897:Extend 8A0:LE 8CA:Extend 8E2:FO 8E3:Extend 904:LE 93A:Extend 93D:LE 93E:Extend ",
    "950:LE 951:Extend 958:LE 962:Extend 964:XX 966:NU 970:XX 971:LE 981:Extend 984:XX 985:LE 98D:XX ",
    "98F:LE 991:XX 993:LE 9A9:XX 9AA:LE 9B1:XX 9B2:LE 9B3:XX 9B6:LE 9BA:XX 9BC:Extend 9BD:LE ",
    "9BE:Extend 9C5:XX 9C7:Extend 9C9:XX 9CB:Extend 9CE:LE 9CF:XX 9D7:Extend 9D8:XX 9DC:LE 9DE:XX ",
    "9DF:LE 9E2:Extend 9E4:XX 9E6:NU 9F0:LE 9F2:XX 9FC:LE 9FD:XX 9FE:Extend 9FF:XX A01:Extend A04:XX ",
    "A05:LE A0B:XX A0F:LE A11:XX A13:LE A29:XX A2A:LE A31:XX A32:LE A34:XX A35:LE A37:XX A38:LE ",
    "A3A:XX A3C:Extend A3D:XX A3E:Extend A43:XX A47:Extend A49:XX A4B:Extend A4E:XX A51:Extend A52:XX ",
    "A59:LE A5D:XX A5E:LE A5F:XX A66:NU A70:Extend A72:LE A75:Extend A76:XX A81:Extend A84:XX A85:LE ",
    "A8E:XX A8F:LE A92:XX A93:LE AA9:XX AAA:LE AB1:XX AB2:LE AB4:XX AB5:LE ABA:XX ABC:Extend ABD:LE ",
    "ABE:Extend AC6:XX AC7:Extend ACA:XX ACB:Extend ACE:XX AD0:LE AD1:XX AE0:LE AE2:Extend AE4:XX ",
    "AE6:NU AF0:XX AF9:LE AFA:Extend B00:XX B01:Extend B04:XX B05:LE B0D:XX B0F:LE B11:XX B13:LE ",
    "B29:XX B2A:LE B31:XX B32:LE B34:XX B35:LE B3A:XX B3C:Extend B3D:LE B3E:Extend B45:XX B47:Extend ",
    "B49:XX B4B:Extend B4E:XX B55:Extend B58:XX B5C:LE B5E:XX B5F:LE B62:Extend B64:XX B66:NU B70:XX ",
    "B71:LE B72:XX B82:Extend B83:LE B84:XX B85:LE B8B:XX B8E:LE B91:XX B92:LE B96:XX B99:LE B9B:XX ",
    "B9C:LE B9D:XX B9E:LE BA0:XX BA3:LE BA5:XX BA8:LE BAB:XX BAE:LE BBA:XX BBE:Extend BC3:XX ",
    "BC6:Extend BC9:XX BCA:Extend BCE:XX BD0:LE BD1:XX BD7:Extend BD8:XX BE6:NU BF0:XX C00:Extend ",
    "C05:LE C0D:XX C0E:LE C11:XX C12:LE C29:XX C2A:LE C3A:XX C3C:Extend C3D:LE C3E:Extend C45:XX ",
    "C46:Extend C49:XX C4A:Extend C4E:XX C55:Extend C57:XX C58:LE C5B:XX C5D:LE C5E:XX C60:LE ",
    "C62:Extend C64:XX C66:NU C70:XX C80:LE C81:Extend C84:XX C85:LE C8D:XX C8E:LE C91:XX C92:LE ",
    "CA9:XX CAA:LE CB4:XX CB5:LE CBA:XX CBC:Extend CBD:LE CBE:Extend CC5:XX CC6:Extend CC9:XX ",
    "CCA:Extend CCE:XX CD5:Extend CD7:XX CDD:LE CDF:XX CE0:LE CE2:Extend CE4:XX CE6:NU CF0:XX CF1:LE ",
    "CF3:Extend CF4:XX D00:Extend D04:LE D0D:XX D0E:LE D11:XX D12:LE D3B:Extend D3D:LE D3E:Extend ",
    "D45:XX D46:Extend D49:XX D4A:Extend D4E:LE D4F:XX D54:LE D57:Extend D58:XX D5F:LE D62:Extend ",
    "D64:XX D66:NU D70:XX D7A:LE D80:XX D81:Extend D84:XX D85:LE D97:XX D9A:LE DB2:XX DB3:LE DBC:XX ",
    "DBD:LE DBE:XX DC0:LE DC7:XX DCA:Extend DCB:XX DCF:Extend DD5:XX DD6:Extend DD7:XX DD8:Extend ",
    "DE0:XX DE6:NU DF0:XX DF2:Extend DF4:XX E31:Extend E32:XX E34:Extend E3B:XX E47:Extend E4F:XX ",
    "E50:NU E5A:XX EB1:Extend EB2:XX EB4:Extend EBD:XX EC8:Extend ECF:XX ED0:NU EDA:XX F00:LE F01:XX ",
    "F18:Extend F1A:XX F20:NU F2A:XX F35:Extend F36:XX F37:Extend F38:XX F39:Extend F3A:XX F3E:Extend ",
    "F40:LE F48:XX F49:LE F6D:XX F71:Extend F85:XX F86:Extend F88:LE F8D:Extend F98:XX F99:Extend ",
    "FBD:XX FC6:Extend FC7:XX 102B:Extend 103F:XX 1040:NU 104A:XX 1056:Extend 105A:XX 105E:Extend ",
    "1061:XX 1062:Extend 1065:XX 1067:Extend 106E:XX 1071:Extend 1075:XX 1082:Extend 108E:XX ",
    "108F:Extend 1090:NU 109A:Extend 109E:XX 10A0:LE 10C6:XX 10C7:LE 10C8:XX 10CD:LE 10CE:XX 10D0:LE ",
    "10FB:XX 10FC:LE 1249:XX 124A:LE 124E:XX 1250:LE 1257:XX 1258:LE 1259:XX 125A:LE 125E:XX 1260:LE ",
    "1289:XX 128A:LE 128E:XX 1290:LE 12B1:XX 12B2:LE 12B6:XX 12B8:LE 12BF:XX 12C0:LE 12C1:XX 12C2:LE ",
    "12C6:XX 12C8:LE 12D7:XX 12D8:LE 1311:XX 1312:LE 1316:XX 1318:LE 135B:XX 135D:Extend 1360:XX ",
    "1380:LE 1390:XX 13A0:LE 13F6:XX 13F8:LE 13FE:XX 1401:LE 166D:XX 166F:LE 1680:WSegSpace 1681:LE ",
    "169B:XX 16A0:LE 16EB:XX 16EE:LE 16F9:XX 1700:LE 1712:Extend 1716:XX 171F:LE 1732:Extend 1735:XX ",
    "1740:LE 1752:Extend 1754:XX 1760:LE 176D:XX 176E:LE 1771:XX 1772:Extend 1774:XX 17B4:Extend ",
    "17D4:XX 17DD:Extend 17DE:XX 17E0:NU 17EA:XX 180B:Extend 180E:FO 180F:Extend 1810:NU 181A:XX ",
    "1820:LE 1879:XX 1880:LE 1885:Extend 1887:LE 18A9:Extend 18AA:LE 18AB:XX 18B0:LE 18F6:XX 1900:LE ",
    "191F:XX 1920:Extend 192C:XX 1930:Extend 193C:XX 1946:NU 1950:XX 19D0:NU 19DA:XX 1A00:LE ",
    "1A17:Extend 1A1C:XX 1A55:Extend 1A5F:XX 1A60:Extend 1A7D:XX 1A7F:Extend 1A80:NU 1A8A:XX 1A90:NU ",
    "1A9A:XX 1AB0:Extend 1ACF:XX 1B00:Extend 1B05:LE 1B34:Extend 1B45:LE 1B4D:XX 1B50:NU 1B5A:XX ",
    "1B6B:Extend 1B74:XX 1B80:Extend 1B83:LE 1BA1:Extend 1BAE:LE 1BB0:NU 1BBA:LE 1BE6:Extend 1BF4:XX ",
    "1C00:LE 1C24:Extend 1C38:XX 1C40:NU 1C4A:XX 1C4D:LE 1C50:NU 1C5A:LE 1C7E:XX 1C80:LE 1C8B:XX ",
    "1C90:LE 1CBB:XX 1CBD:LE 1CC0:XX 1CD0:Extend 1CD3:XX 1CD4:Extend 1CE9:LE 1CED:Extend 1CEE:LE ",
    "1CF4:Extend 1CF5:LE 1CF7:Extend 1CFA:LE 1CFB:XX 1D00:LE 1DC0:Extend 1E00:LE 1F16:XX 1F18:LE ",
    "1F1E:XX 1F20:LE 1F46:XX 1F48:LE 1F4E:XX 1F50:LE 1F58:XX 1F59:LE 1F5A:XX 1F5B:LE 1F5C:XX 1F5D:LE ",
    "1F5E:XX 1F5F:LE 1F7E:XX 1F80:LE 1FB5:XX 1FB6:LE 1FBD:XX 1FBE:LE 1FBF:XX 1FC2:LE 1FC5:XX 1FC6:LE ",
    "1FCD:XX 1FD0:LE 1FD4:XX 1FD6:LE 1FDC:XX 1FE0:LE 1FED:XX 1FF2:LE 1FF5:XX 1FF6:LE 1FFD:XX ",
    "2000:WSegSpace 2007:XX 2008:WSegSpace 200B:XX 200C:Extend 200D:ZWJ 200E:FO 2010:XX 2018:MB ",
    "201A:XX 2024:MB 2025:XX 2027:ML 2028:NL 202A:FO 202F:EX 2030:XX 203F:EX 2041:XX 2044:MN 2045:XX ",
    "2054:EX 2055:XX 205F:WSegSpace 2060:FO 2065:XX 2066:FO 2070:XX 2071:LE 2072:XX 207F:LE 2080:XX ",
    "2090:LE 209D:XX 20D0:Extend 20F1:XX 2102:LE 2103:XX 2107:LE 2108:XX 210A:LE 2114:XX 2115:LE ",
    "2116:XX 2119:LE 211E:XX 2124:LE 2125:XX 2126:LE 2127:XX 2128:LE 2129:XX 212A:LE 212E:XX 212F:LE ",
    "213A:XX 213C:LE 2140:XX 2145:LE 214A:XX 214E:LE 214F:XX 2160:LE 2189:XX 24B6:LE 24EA:XX 2C00:LE ",
    "2CE5:XX 2CEB:LE 2CEF:Extend 2CF2:LE 2CF4:XX 2D00:LE 2D26:XX 2D27:LE 2D28:XX 2D2D:LE 2D2E:XX ",
    "2D30:LE 2D68:XX 2D6F:LE 2D70:XX 2D7F:Extend 2D80:LE 2D97:XX 2DA0:LE 2DA7:XX 2DA8:LE 2DAF:XX ",
    "2DB0:LE 2DB7:XX 2DB8:LE 2DBF:XX 2DC0:LE 2DC7:XX 2DC8:LE 2DCF:XX 2DD0:LE 2DD7:XX 2DD8:LE 2DDF:XX ",
    "2DE0:Extend 2E00:XX 2E2F:LE 2E30:XX 3000:WSegSpace 3001:XX 3005:LE 3006:XX 302A:Extend 3030:XX ",
    "3031:KA 3036:XX 303B:LE 303D:XX 3099:Extend 309B:KA 309D:XX 30A0:KA 30FB:XX 30FC:KA 3100:XX ",
    "3105:LE 3130:XX 3131:LE 318F:XX 31A0:LE 31C0:XX 31F0:KA 3200:XX 32D0:KA 32FF:XX 3300:KA 3358:XX ",
    "A000:LE A48D:XX A4D0:LE A4FE:XX A500:LE A60D:XX A610:LE A620:NU A62A:LE A62C:XX A640:LE ",
    "A66F:Extend A673:XX A674:Extend A67E:XX A67F:LE A69E:Extend A6A0:LE A6F0:Extend A6F2:XX A708:LE ",
    "A7CE:XX A7D0:LE A7D2:XX A7D3:LE A7D4:XX A7D5:LE A7DD:XX A7F2:LE A802:Extend A803:LE A806:Extend ",
    "A807:LE A80B:Extend A80C:LE A823:Extend A828:XX A82C:Extend A82D:XX A840:LE A874:XX A880:Extend ",
    "A882:LE A8B4:Extend A8C6:XX A8D0:NU A8DA:XX A8E0:Extend A8F2:LE A8F8:XX A8FB:LE A8FC:XX A8FD:LE ",
    "A8FF:Extend A900:NU A90A:LE A926:Extend A92E:XX A930:LE A947:Extend A954:XX A960:LE A97D:XX ",
    "A980:Extend A984:LE A9B3:Extend A9C1:XX A9CF:LE A9D0:NU A9DA:XX A9E5:Extend A9E6:XX A9F0:NU ",
    "A9FA:XX AA00:LE AA29:Extend AA37:XX AA40:LE AA43:Extend AA44:LE AA4C:Extend AA4E:XX AA50:NU ",
    "AA5A:XX AA7B:Extend AA7E:XX AAB0:Extend AAB1:XX AAB2:Extend AAB5:XX AAB7:Extend AAB9:XX ",
    "AABE:Extend AAC0:XX AAC1:Extend AAC2:XX AAE0:LE AAEB:Extend AAF0:XX AAF2:LE AAF5:Extend AAF7:XX ",
    "AB01:LE AB07:XX AB09:LE AB0F:XX AB11:LE AB17:XX AB20:LE AB27:XX AB28:LE AB2F:XX AB30:LE AB6A:XX ",
    "AB70:LE ABE3:Extend ABEB:XX ABEC:Extend ABEE:XX ABF0:NU ABFA:XX AC00:LE D7A4:XX D7B0:LE D7C7:XX ",
    "D7CB:LE D7FC:XX FB00:LE FB07:XX FB13:LE FB18:XX FB1D:HL FB1E:Extend FB1F:HL FB29:XX FB2A:HL ",
    "FB37:XX FB38:HL FB3D:XX FB3E:HL FB3F:XX FB40:HL FB42:XX FB43:HL FB45:XX FB46:HL FB50:LE FBB2:XX ",
    "FBD3:LE FD3E:XX FD50:LE FD90:XX FD92:LE FDC8:XX FDF0:LE FDFC:XX FE00:Extend FE10:XX FE13:ML ",
    "FE14:XX FE20:Extend FE30:XX FE33:EX FE35:XX FE4D:EX FE50:MN FE51:XX FE52:MB FE53:XX FE54:MN ",
    "FE55:ML FE56:XX FE70:LE FE75:XX FE76:LE FEFD:XX FEFF:FO FF00:XX FF07:MB FF08:XX FF0C:MN FF0D:XX ",
    "FF0E:MB FF0F:XX FF10:NU FF1A:ML FF1B:MN FF1C:XX FF21:LE FF3B:XX FF3F:EX FF40:XX FF41:LE FF5B:XX ",
    "FF66:KA FF9E:Extend FFA0:LE FFBF:XX FFC2:LE FFC8:XX FFCA:LE FFD0:XX FFD2:LE FFD8:XX FFDA:LE ",
    "FFDD:XX FFF9:FO FFFC:XX 10000:LE 1000C:XX 1000D:LE 10027:XX 10028:LE 1003B:XX 1003C:LE 1003E:XX ",
    "1003F:LE 1004E:XX 10050:LE 1005E:XX 10080:LE 100FB:XX 10140:LE 10175:XX 101FD:Extend 101FE:XX ",
    "10280:LE 1029D:XX 102A0:LE 102D1:XX 102E0:Extend 102E1:XX 10300:LE 10320:XX 1032D:LE 1034B:XX ",
    "10350:LE 10376:Extend 1037B:XX 10380:LE 1039E:XX 103A0:LE 103C4:XX 103C8:LE 103D0:XX 103D1:LE ",
    "103D6:XX 10400:LE 1049E:XX 104A0:NU 104AA:XX 104B0:LE 104D4:XX 104D8:LE 104FC:XX 10500:LE ",
    "10528:XX 10530:LE 10564:XX 10570:LE 1057B:XX 1057C:LE 1058B:XX 1058C:LE 10593:XX 10594:LE ",
    "10596:XX 10597:LE 105A2:XX 105A3:LE 105B2:XX 105B3:LE 105BA:XX 105BB:LE 105BD:XX 105C0:LE ",
    "105F4:XX 10600:LE 10737:XX 10740:LE 10756:XX 10760:LE 10768:XX 10780:LE 10786:XX 10787:LE ",
    "107B1:XX 107B2:LE 107BB:XX 10800:LE 10806:XX 10808:LE 10809:XX 1080A:LE 10836:XX 10837:LE ",
    "10839:XX 1083C:LE 1083D:XX 1083F:LE 10856:XX 10860:LE 10877:XX 10880:LE 1089F:XX 108E0:LE ",
    "108F3:XX 108F4:LE 108F6:XX 10900:LE 10916:XX 10920:LE 1093A:XX 10980:LE 109B8:XX 109BE:LE ",
    "109C0:XX 10A00:LE 10A01:Extend 10A04:XX 10A05:Extend 10A07:XX 10A0C:Extend 10A10:LE 10A14:XX ",
    "10A15:LE 10A18:XX 10A19:LE 10A36:XX 10A38:Extend 10A3B:XX 10A3F:Extend 10A40:XX 10A60:LE ",
    "10A7D:XX 10A80:LE 10A9D:XX 10AC0:LE 10AC8:XX 10AC9:LE 10AE5:Extend 10AE7:XX 10B00:LE 10B36:XX ",
    "10B40:LE 10B56:XX 10B60:LE 10B73:XX 10B80:LE 10B92:XX 10C00:LE 10C49:XX 10C80:LE 10CB3:XX ",
    "10CC0:LE 10CF3:XX 10D00:LE 10D24:Extend 10D28:XX 10D30:NU 10D3A:XX 10D40:NU 10D4A:LE 10D66:XX ",
    "10D69:Extend 10D6E:XX 10D6F:LE 10D86:XX 10E80:LE 10EAA:XX 10EAB:Extend 10EAD:XX 10EB0:LE ",
    "10EB2:XX 10EC2:LE 10EC5:XX 10EFC:Extend 10F00:LE 10F1D:XX 10F27:LE 10F28:XX 10F30:LE ",
    "10F46:Extend 10F51:XX 10F70:LE 10F82:Extend 10F86:XX 10FB0:LE 10FC5:XX 10FE0:LE 10FF7:XX ",
    "11000:Extend 11003:LE 11038:Extend 11047:XX 11066:NU 11070:Extend 11071:LE 11073:Extend 11075:LE ",
    "11076:XX 1107F:Extend 11083:LE 110B0:Extend 110BB:XX 110BD:FO 110BE:XX 110C2:Extend 110C3:XX ",
    "110CD:FO 110CE:XX 110D0:LE 110E9:XX 110F0:NU 110FA:XX 11100:Extend 11103:LE 11127:Extend ",
    "11135:XX 11136:NU 11140:XX 11144:LE 11145:Extend 11147:LE 11148:XX 11150:LE 11173:Extend ",
    "11174:XX 11176:LE 11177:XX 11180:Extend 11183:LE 111B3:Extend 111C1:LE 111C5:XX 111C9:Extend ",
    "111CD:XX 111CE:Extend 111D0:NU 111DA:LE 111DB:XX 111DC:LE 111DD:XX 11200:LE 11212:XX 11213:LE ",
    "1122C:Extend 11238:XX 1123E:Extend 1123F:LE 11241:Extend 11242:XX 11280:LE 11287:XX 11288:LE ",
    "11289:XX 1128A:LE 1128E:XX 1128F:LE 1129E:XX 1129F:LE 112A9:XX 112B0:LE 112DF:Extend 112EB:XX ",
    "112F0:NU 112FA:XX 11300:Extend 11304:XX 11305:LE 1130D:XX 1130F:LE 11311:XX 11313:LE 11329:XX ",
    "1132A:LE 11331:XX 11332:LE 11334:XX 11335:LE 1133A:XX 1133B:Extend 1133D:LE 1133E:Extend ",
    "11345:XX 11347:Extend 11349:XX 1134B:Extend 1134E:XX 11350:LE 11351:XX 11357:Extend 11358:XX ",
    "1135D:LE 11362:Extend 11364:XX 11366:Extend 1136D:XX 11370:Extend 11375:XX 11380:LE 1138A:XX ",
    "1138B:LE 1138C:XX 1138E:LE 1138F:XX 11390:LE 113B6:XX 113B7:LE 113B8:Extend 113C1:XX ",
    "113C2:Extend 113C3:XX 113C5:Extend 113C6:XX 113C7:Extend 113CB:XX 113CC:Extend 113D1:LE ",
    "113D2:Extend 113D3:LE 113D4:XX 113E1:Extend 113E3:XX 11400:LE 11435:Extend 11447:LE 1144B:XX ",
    "11450:NU 1145A:XX 1145E:Extend 1145F:LE 11462:XX 11480:LE 114B0:Extend 114C4:LE 114C6:XX ",
    "114C7:LE 114C8:XX 114D0:NU 114DA:XX 11580:LE 115AF:Extend 115B6:XX 115B8:Extend 115C1:XX ",
    "115D8:LE 115DC:Extend 115DE:XX 11600:LE 11630:Extend 11641:XX 11644:LE 11645:XX 11650:NU ",
    "1165A:XX 11680:LE 116AB:Extend 116B8:LE 116B9:XX 116C0:NU 116CA:XX 116D0:NU 116E4:XX ",
    "1171D:Extend 1172C:XX 11730:NU 1173A:XX 11800:LE 1182C:Extend 1183B:XX 118A0:LE 118E0:NU ",
    "118EA:XX 118FF:LE 11907:XX 11909:LE 1190A:XX 1190C:LE 11914:XX 11915:LE 11917:XX 11918:LE ",
    "11930:Extend 11936:XX 11937:Extend 11939:XX 1193B:Extend 1193F:LE 11940:Extend 11941:LE ",
    "11942:Extend 11944:XX 11950:NU 1195A:XX 119A0:LE 119A8:XX 119AA:LE 119D1:Extend 119D8:XX ",
    "119DA:Extend 119E1:LE 119E2:XX 119E3:LE 119E4:Extend 119E5:XX 11A00:LE 11A01:Extend 11A0B:LE ",
    "11A33:Extend 11A3A:LE 11A3B:Extend 11A3F:XX 11A47:Extend 11A48:XX 11A50:LE 11A51:Extend 11A5C:LE ",
    "11A8A:Extend 11A9A:XX 11A9D:LE 11A9E:XX 11AB0:LE 11AF9:XX 11BC0:LE 11BE1:XX 11BF0:NU 11BFA:XX ",
    "11C00:LE 11C09:XX 11C0A:LE 11C2F:Extend 11C37:XX 11C38:Extend 11C40:LE 11C41:XX 11C50:NU ",
    "11C5A:XX 11C72:LE 11C90:XX 11C92:Extend 11CA8:XX 11CA9:Extend 11CB7:XX 11D00:LE 11D07:XX ",
    "11D08:LE 11D0A:XX 11D0B:LE 11D31:Extend 11D37:XX 11D3A:Extend 11D3B:XX 11D3C:Extend 11D3E:XX ",
    "11D3F:Extend 11D46:LE 11D47:Extend 11D48:XX 11D50:NU 11D5A:XX 11D60:LE 11D66:XX 11D67:LE ",
    "11D69:XX 11D6A:LE 11D8A:Extend 11D8F:XX 11D90:Extend 11D92:XX 11D93:Extend 11D98:LE 11D99:XX ",
    "11DA0:NU 11DAA:XX 11EE0:LE 11EF3:Extend 11EF7:XX 11F00:Extend 11F02:LE 11F03:Extend 11F04:LE ",
    "11F11:XX 11F12:LE 11F34:Extend 11F3B:XX 11F3E:Extend 11F43:XX 11F50:NU 11F5A:Extend 11F5B:XX ",
    "11FB0:LE 11FB1:XX 12000:LE 1239A:XX 12400:LE 1246F:XX 12480:LE 12544:XX 12F90:LE 12FF1:XX ",
    "13000:LE 13430:FO 13440:Extend 13441:LE 13447:Extend 13456:XX 13460:LE 143FB:XX 14400:LE ",
    "14647:XX 16100:LE 1611E:Extend 16130:NU 1613A:XX 16800:LE 16A39:XX 16A40:LE 16A5F:XX 16A60:NU ",
    "16A6A:XX 16A70:LE 16ABF:XX 16AC0:NU 16ACA:XX 16AD0:LE 16AEE:XX 16AF0:Extend 16AF5:XX 16B00:LE ",
    "16B30:Extend 16B37:XX 16B40:LE 16B44:XX 16B50:NU 16B5A:XX 16B63:LE 16B78:XX 16B7D:LE 16B90:XX ",
    "16D40:LE 16D6D:XX 16D70:NU 16D7A:XX 16E40:LE 16E80:XX 16F00:LE 16F4B:XX 16F4F:Extend 16F50:LE ",
    "16F51:Extend 16F88:XX 16F8F:Extend 16F93:LE 16FA0:XX 16FE0:LE 16FE2:XX 16FE3:LE 16FE4:Extend ",
    "16FE5:XX 16FF0:Extend 16FF2:XX 1AFF0:KA 1AFF4:XX 1AFF5:KA 1AFFC:XX 1AFFD:KA 1AFFF:XX 1B000:KA ",
    "1B001:XX 1B120:KA 1B123:XX 1B155:KA 1B156:XX 1B164:KA 1B168:XX 1BC00:LE 1BC6B:XX 1BC70:LE ",
    "1BC7D:XX 1BC80:LE 1BC89:XX 1BC90:LE 1BC9A:XX 1BC9D:Extend 1BC9F:XX 1BCA0:FO 1BCA4:XX 1CCF0:NU ",
    "1CCFA:XX 1CF00:Extend 1CF2E:XX 1CF30:Extend 1CF47:XX 1D165:Extend 1D16A:XX 1D16D:Extend 1D173:FO ",
    "1D17B:Extend 1D183:XX 1D185:Extend 1D18C:XX 1D1AA:Extend 1D1AE:XX 1D242:Extend 1D245:XX 1D400:LE ",
    "1D455:XX 1D456:LE 1D49D:XX 1D49E:LE 1D4A0:XX 1D4A2:LE 1D4A3:XX 1D4A5:LE 1D4A7:XX 1D4A9:LE ",
    "1D4AD:XX 1D4AE:LE 1D4BA:XX 1D4BB:LE 1D4BC:XX 1D4BD:LE 1D4C4:XX 1D4C5:LE 1D506:XX 1D507:LE ",
    "1D50B:XX 1D50D:LE 1D515:XX 1D516:LE 1D51D:XX 1D51E:LE 1D53A:XX 1D53B:LE 1D53F:XX 1D540:LE ",
    "1D545:XX 1D546:LE 1D547:XX 1D54A:LE 1D551:XX 1D552:LE 1D6A6:XX 1D6A8:LE 1D6C1:XX 1D6C2:LE ",
    "1D6DB:XX 1D6DC:LE 1D6FB:XX 1D6FC:LE 1D715:XX 1D716:LE 1D735:XX 1D736:LE 1D74F:XX 1D750:LE ",
    "1D76F:XX 1D770:LE 1D789:XX 1D78A:LE 1D7A9:XX 1D7AA:LE 1D7C3:XX 1D7C4:LE 1D7CC:XX 1D7CE:NU ",
    "1D800:XX 1DA00:Extend 1DA37:XX 1DA3B:Extend 1DA6D:XX 1DA75:Extend 1DA76:XX 1DA84:Extend 1DA85:XX ",
    "1DA9B:Extend 1DAA0:XX 1DAA1:Extend 1DAB0:XX 1DF00:LE 1DF1F:XX 1DF25:LE 1DF2B:XX 1E000:Extend ",
    "1E007:XX 1E008:Extend 1E019:XX 1E01B:Extend 1E022:XX 1E023:Extend 1E025:XX 1E026:Extend 1E02B:XX ",
    "1E030:LE 1E06E:XX 1E08F:Extend 1E090:XX 1E100:LE 1E12D:XX 1E130:Extend 1E137:LE 1E13E:XX ",
    "1E140:NU 1E14A:XX 1E14E:LE 1E14F:XX 1E290:LE 1E2AE:Extend 1E2AF:XX 1E2C0:LE 1E2EC:Extend ",
    "1E2F0:NU 1E2FA:XX 1E4D0:LE 1E4EC:Extend 1E4F0:NU 1E4FA:XX 1E5D0:LE 1E5EE:Extend 1E5F0:LE ",
    "1E5F1:NU 1E5FB:XX 1E7E0:LE 1E7E7:XX 1E7E8:LE 1E7EC:XX 1E7ED:LE 1E7EF:XX 1E7F0:LE 1E7FF:XX ",
    "1E800:LE 1E8C5:XX 1E8D0:Extend 1E8D7:XX 1E900:LE 1E944:Extend 1E94B:LE 1E94C:XX 1E950:NU ",
    "1E95A:XX 1EE00:LE 1EE04:XX 1EE05:LE 1EE20:XX 1EE21:LE 1EE23:XX 1EE24:LE 1EE25:XX 1EE27:LE ",
    "1EE28:XX 1EE29:LE 1EE33:XX 1EE34:LE 1EE38:XX 1EE39:LE 1EE3A:XX 1EE3B:LE 1EE3C:XX 1EE42:LE ",
    "1EE43:XX 1EE47:LE 1EE48:XX 1EE49:LE 1EE4A:XX 1EE4B:LE 1EE4C:XX 1EE4D:LE 1EE50:XX 1EE51:LE ",
    "1EE53:XX 1EE54:LE 1EE55:XX 1EE57:LE 1EE58:XX 1EE59:LE 1EE5A:XX 1EE5B:LE 1EE5C:XX 1EE5D:LE ",
    "1EE5E:XX 1EE5F:LE 1EE60:XX 1EE61:LE 1EE63:XX 1EE64:LE 1EE65:XX 1EE67:LE 1EE6B:XX 1EE6C:LE ",
    "1EE73:XX 1EE74:LE 1EE78:XX 1EE79:LE 1EE7D:XX 1EE7E:LE 1EE7F:XX 1EE80:LE 1EE8A:XX 1EE8B:LE ",
    "1EE9C:XX 1EEA1:LE 1EEA4:XX 1EEA5:LE 1EEAA:XX 1EEAB:LE 1EEBC:XX 1F130:LE 1F14A:XX 1F150:LE ",
    "1F16A:XX 1F170:LE 1F18A:XX 1F1E6:RI 1F200:XX 1F3FB:Extend 1F400:XX 1FBF0:NU 1FBFA:XX E0001:FO ",
    "E0002:XX E0020:Extend E0080:XX E0100:Extend E01F0:XX"]

/-- Runs of the sentence classes. -/
def sentenceBreakTable : String :=
  String.join [
    "0:XX 9:SP A:LF B:SP D:CR E:XX 20:SP 21:ST 22:CL 23:XX 27:CL 2A:XX 2C:SC 2E:AT 2F:XX 30:NU 3A:SC ",
    "3C:XX 3F:ST 40:XX 41:UP 5B:CL 5C:XX 5D:CL 5E:XX 61:LO 7B:CL 7C:XX 7D:CL 7E:XX 85:SE 86:XX A0:SP ",
    "A1:XX AA:LO AB:CL AC:XX AD:FO AE:XX B5:LO B6:XX BA:LO BB:CL BC:XX C0:UP D7:XX D8:UP DF:LO F7:XX ",
    "F8:LO 100:UP 101:LO 102:UP 103:LO 104:UP 105:LO 106:UP 107:LO 108:UP 109:LO 10A:UP 10B:LO 10C:UP ",
    "10D:LO 10E:UP 10F:LO 110:UP 111:LO 112:UP 113:LO 114:UP 115:LO 116:UP 117:LO 118:UP 119:LO ",
    "11A:UP 11B:LO 11C:UP 11D:LO 11E:UP 11F:LO 120:UP 121:LO 122:UP 123:LO 124:UP 125:LO 126:UP ",
    "127:LO 128:UP 129:LO 12A:UP 12B:LO 12C:UP 12D:LO 12E:UP 12F:LO 130:UP 131:LO 132:UP 133:LO ",
    "134:UP 135:LO 136:UP 137:LO 139:UP 13A:LO 13B:UP 13C:LO 13D:UP 13E:LO 13F:UP 140:LO 141:UP ",
    "142:LO 143:UP 144:LO 145:UP 146:LO 147:UP 148:LO 14A:UP 14B:LO 14C:UP 14D:LO 14E:UP 14F:LO ",
    "150:UP 151:LO 152:UP 153:LO 154:UP 155:LO 156:UP 157:LO 158:UP 159:LO 15A:UP 15B:LO 15C:UP ",
    "15D:LO 15E:UP 15F:LO 160:UP 161:LO 162:UP 163:LO 164:UP 165:LO 166:UP 167:LO 168:UP 169:LO ",
    "16A:UP 16B:LO 16C:UP 16D:LO 16E:UP 16F:LO 170:UP 171:LO 172:UP 173:LO 174:UP 175:LO 176:UP ",
    "177:LO 178:UP 17A:LO 17B:UP 17C:LO 17D:UP 17E:LO 181:UP 183:LO 184:UP 185:LO 186:UP 188:LO ",
    "189:UP 18C:LO 18E:UP 192:LO 193:UP 195:LO 196:UP 199:LO 19C:UP 19E:LO 19F:UP 1A1:LO 1A2:UP ",
    "1A3:LO 1A4:UP 1A5:LO 1A6:UP 1A8:LO 1A9:UP 1AA:LO 1AC:UP 1AD:LO 1AE:UP 1B0:LO 1B1:UP 1B4:LO ",
    "1B5:UP 1B6:LO 1B7:UP 1B9:LO 1BB:LE 1BC:UP 1BD:LO 1C0:LE 1C4:UP 1C6:LO 1C7:UP 1C9:LO 1CA:UP ",
    "1CC:LO 1CD:UP 1CE:LO 1CF:UP 1D0:LO 1D1:UP 1D2:LO 1D3:UP 1D4:LO 1D5:UP 1D6:LO 1D7:UP 1D8:LO ",
    "1D9:UP 1DA:LO 1DB:UP 1DC:LO 1DE:UP 1DF:LO 1E0:UP 1E1:LO 1E2:UP 1E3:LO 1E4:UP 1E5:LO 1E6:UP ",
    "1E7:LO 1E8:UP 1E9:LO 1EA:UP 1EB:LO 1EC:UP 1ED:LO 1EE:UP 1EF:LO 1F1:UP 1F3:LO 1F4:UP 1F5:LO ",
    "1F6:UP 1F9:LO 1FA:UP 1FB:LO 1FC:UP 1FD:LO 1FE:UP 1FF:LO 200:UP 201:LO 202:UP 203:LO 204:UP ",
    "205:LO 206:UP 207:LO 208:UP 209:LO 20A:UP 20B:LO 20C:UP 20D:LO 20E:UP 20F:LO 210:UP 211:LO ",
    "212:UP 213:LO 214:UP 215:LO 216:UP 217:LO 218:UP 219:LO 21A:UP 21B:LO 21C:UP 21D:LO 21E:UP ",
    "21F:LO 220:UP 221:LO 222:UP 223:LO 224:UP 225:LO 226:UP 227:LO 228:UP 229:LO 22A:UP 22B:LO ",
    "22C:UP 22D:LO 22E:UP 22F:LO 230:UP 231:LO 232:UP 233:LO 23A:UP 23C:LO 23D:UP 23F:LO 241:UP ",
    "242:LO 243:UP 247:LO 248:UP 249:LO 24A:UP 24B:LO 24C:UP 24D:LO 24E:UP 24F:LO 294:LE 295:LO ",
    "2B9:LE 2C0:LO 2C2:XX 2C6:LE 2D2:XX 2E0:LO 2E5:XX 2EC:LE 2ED:XX 2EE:LE 2EF:XX 300:EX 370:UP ",
    "371:LO 372:UP 373:LO 374:LE 375:XX 376:UP 377:LO 378:XX 37A:LO 37E:SC 37F:UP 380:XX 386:UP ",
    "387:XX 388:UP 38B:XX 38C:UP 38D:XX 38E:UP 390:LO 391:UP 3A2:XX 3A3:UP 3AC:LO 3CF:UP 3D0:LO ",
    "3D2:UP 3D5:LO 3D8:UP 3D9:LO 3DA:UP 3DB:LO 3DC:UP 3DD:LO 3DE:UP 3DF:LO 3E0:UP 3E1:LO 3E2:UP ",
    "3E3:LO 3E4:UP 3E5:LO 3E6:UP 3E7:LO 3E8:UP 3E9:LO 3EA:UP 3EB:LO 3EC:UP 3ED:LO 3EE:UP 3EF:LO ",
    "3F4:UP 3F5:LO 3F6:XX 3F7:UP 3F8:LO 3F9:UP 3FB:LO 3FD:UP 430:LO 460:UP 461:LO 462:UP 463:LO ",
    "464:UP 465:LO 466:UP 467:LO 468:UP 469:LO 46A:UP 46B:LO 46C:UP 46D:LO 46E:UP 46F:LO 470:UP ",
    "471:LO 472:UP 473:LO 474:UP 475:LO 476:UP 477:LO 478:UP 479:LO 47A:UP 47B:LO 47C:UP 47D:LO ",
    "47E:UP 47F:LO 480:UP 481:LO 482:XX 483:EX 48A:UP 48B:LO 48C:UP 48D:LO 48E:UP 48F:LO 490:UP ",
    "491:LO 492:UP 493:LO 494:UP 495:LO 496:UP 497:LO 498:UP 499:LO 49A:UP 49B:LO 49C:UP 49D:LO ",
    "49E:UP 49F:LO 4A0:UP 4A1:LO 4A2:UP 4A3:LO 4A4:UP 4A5:LO 4A6:UP 4A7:LO 4A8:UP 4A9:LO 4AA:UP ",
    "4AB:LO 4AC:UP 4AD:LO 4AE:UP 4AF:LO 4B0:UP 4B1:LO 4B2:UP 4B3:LO 4B4:UP 4B5:LO 4B6:UP 4B7:LO ",
    "4B8:UP 4B9:LO 4BA:UP 4BB:LO 4BC:UP 4BD:LO 4BE:UP 4BF:LO 4C0:UP 4C2:LO 4C3:UP 4C4:LO 4C5:UP ",
    "4C6:LO 4C7:UP 4C8:LO 4C9:UP 4CA:LO 4CB:UP 4CC:LO 4CD:UP 4CE:LO 4D0:UP 4D1:LO 4D2:UP 4D3:LO ",
    "4D4:UP 4D5:LO 4D6:UP 4D7:LO 4D8:UP 4D9:LO 4DA:UP 4DB:LO 4DC:UP 4DD:LO 4DE:UP 4DF:LO 4E0:UP ",
    "4E1:LO 4E2:UP 4E3:LO 4E4:UP 4E5:LO 4E6:UP 4E7:LO 4E8:UP 4E9:LO 4EA:UP 4EB:LO 4EC:UP 4ED:LO ",
    "4EE:UP 4EF:LO 4F0:UP 4F1:LO 4F2:UP 4F3:LO 4F4:UP 4F5:LO 4F6:UP 4F7:LO 4F8:UP 4F9:LO 4FA:UP ",
    "4FB:LO 4FC:UP 4FD:LO 4FE:UP 4FF:LO 500:UP 501:LO 502:UP 503:LO 504:UP 505:LO 506:UP 507:LO ",
    "508:UP 509:LO 50A:UP 50B:LO 50C:UP 50D:LO 50E:UP 50F:LO 510:UP 511:LO 512:UP 513:LO 514:UP ",
    "515:LO 516:UP 517:LO 518:UP 519:LO 51A:UP 51B:LO 51C:UP 51D:LO 51E:UP 51F:LO 520:UP 521:LO ",
    "522:UP 523:LO 524:UP 525:LO 526:UP 527:LO 528:UP 529:LO 52A:UP 52B:LO 52C:UP 52D:LO 52E:UP ",
    "52F:LO 530:XX 531:UP 557:XX 559:LE 55A:XX 55D:SC 55E:XX 560:LO 589:ST 58A:XX 591:EX 5BE:XX ",
    "5BF:EX 5C0:XX 5C1:EX 5C3:XX 5C4:EX 5C6:XX 5C7:EX 5C8:XX 5D0:LE 5EB:XX 5EF:LE 5F4:XX 600:FO ",
    "606:XX 60C:SC 60E:XX 610:EX 61B:XX 61C:FO 61D:ST 620:LE 64B:EX 660:NU 66A:XX 66B:NU 66D:XX ",
    "66E:LE 670:EX 671:LE 6D4:ST 6D5:LE 6D6:EX 6DD:FO 6DE:XX 6DF:EX 6E5:LE 6E7:EX 6E9:XX 6EA:EX ",
    "6EE:LE 6F0:NU 6FA:LE 6FD:XX 6FF:LE 700:ST 703:XX 70F:FO 710:LE 711:EX 712:LE 730:EX 74B:XX ",
    "74D:LE 7A6:EX 7B1:LE 7B2:XX 7C0:NU 7CA:LE 7EB:EX 7F4:LE 7F6:XX 7F8:SC 7F9:ST 7FA:LE 7FB:XX ",
    "7FD:EX 7FE:XX 800:LE 816:EX 81A:LE 81B:EX 824:LE 825:EX 828:LE 829:EX 82E:XX 837:ST 838:XX ",
    "839:ST 83A:XX 83D:ST 83F:XX 840:LE 859:EX 85C:XX 860:LE 86B:XX 870:LE 888:XX 889:LE 88F:XX ",
    "890:FO 892:XX 897:EX 8A0:LE 8CA:EX 8E2:FO 8E3:EX 904:LE 93A:EX 93D:LE 93E:EX 950:LE 951:EX ",
    "958:LE 962:EX 964:ST 966:NU 970:XX 971:LE 981:EX 984:XX 985:LE 98D:XX 98F:LE 991:XX 993:LE ",
    "9A9:XX 9AA:LE 9B1:XX 9B2:LE 9B3:XX 9B6:LE 9BA:XX 9BC:EX 9BD:LE 9BE:EX 9C5:XX 9C7:EX 9C9:XX ",
    "9CB:EX 9CE:LE 9CF:XX 9D7:EX 9D8:XX 9DC:LE 9DE:XX 9DF:LE 9E2:EX 9E4:XX 9E6:NU 9F0:LE 9F2:XX ",
    "9FC:LE 9FD:XX 9FE:EX 9FF:XX A01:EX A04:XX A05:LE A0B:XX A0F:LE A11:XX A13:LE A29:XX A2A:LE ",
    "A31:XX A32:LE A34:XX A35:LE A37:XX A38:LE A3A:XX A3C:EX A3D:XX A3E:EX A43:XX A47:EX A49:XX ",
    "A4B:EX A4E:XX A51:EX A52:XX A59:LE A5D:XX A5E:LE A5F:XX A66:NU A70:EX A72:LE A75:EX A76:XX ",
    "A81:EX A84:XX A85:LE A8E:XX A8F:LE A92:XX A93:LE AA9:XX AAA:LE AB1:XX AB2:LE AB4:XX AB5:LE ",
    "ABA:XX ABC:EX ABD:LE ABE:EX AC6:XX AC7:EX ACA:XX ACB:EX ACE:XX AD0:LE AD1:XX AE0:LE AE2:EX ",
    "AE4:XX AE6:NU AF0:XX AF9:LE AFA:EX B00:XX B01:EX B04:XX B05:LE B0D:XX B0F:LE B11:XX B13:LE ",
    "B29:XX B2A:LE B31:XX B32:LE B34:XX B35:LE B3A:XX B3C:EX B3D:LE B3E:EX B45:XX B47:EX B49:XX ",
    "B4B:EX B4E:XX B55:EX B58:XX B5C:LE B5E:XX B5F:LE B62:EX B64:XX B66:NU B70:XX B71:LE B72:XX ",
    "B82:EX B83:LE B84:XX B85:LE B8B:XX B8E:LE B91:XX B92:LE B96:XX B99:LE B9B:XX B9C:LE B9D:XX ",
    "B9E:LE BA0:XX BA3:LE BA5:XX BA8:LE BAB:XX BAE:LE BBA:XX BBE:EX BC3:XX BC6:EX BC9:XX BCA:EX ",
    "BCE:XX BD0:LE BD1:XX BD7:EX BD8:XX BE6:NU BF0:XX C00:EX C05:LE C0D:XX C0E:LE C11:XX C12:LE ",
    "C29:XX C2A:LE C3A:XX C3C:EX C3D:LE C3E:EX C45:XX C46:EX C49:XX C4A:EX C4E:XX C55:EX C57:XX ",
    "C58:LE C5B:XX C5D:LE C5E:XX C60:LE C62:EX C64:XX C66:NU C70:XX C80:LE C81:EX C84:XX C85:LE ",
    "C8D:XX C8E:LE C91:XX C92:LE CA9:XX CAA:LE CB4:XX CB5:LE CBA:XX CBC:EX CBD:LE CBE:EX CC5:XX ",
    "CC6:EX CC9:XX CCA:EX CCE:XX CD5:EX CD7:XX CDD:LE CDF:XX CE0:LE CE2:EX CE4:XX CE6:NU CF0:XX ",
    "CF1:LE CF3:EX CF4:XX D00:EX D04:LE D0D:XX D0E:LE D11:XX D12:LE D3B:EX D3D:LE D3E:EX D45:XX ",
    "D46:EX D49:XX D4A:EX D4E:LE D4F:XX D54:LE D57:EX D58:XX D5F:LE D62:EX D64:XX D66:NU D70:XX ",
    "D7A:LE D80:XX D81:EX D84:XX D85:LE D97:XX D9A:LE DB2:XX DB3:LE DBC:XX DBD:LE DBE:XX DC0:LE ",
    "DC7:XX DCA:EX DCB:XX DCF:EX DD5:XX DD6:EX DD7:XX DD8:EX DE0:XX DE6:NU DF0:XX DF2:EX DF4:XX ",
    "E01:LE E31:EX E32:LE E34:EX E3B:XX E40:LE E47:EX E4F:XX E50:NU E5A:XX E81:LE E83:XX E84:LE ",
    "E85:XX E86:LE E8B:XX E8C:LE EA4:XX EA5:LE EA6:XX EA7:LE EB1:EX EB2:LE EB4:EX EBD:LE EBE:XX ",
    "EC0:LE EC5:XX EC6:LE EC7:XX EC8:EX ECF:XX ED0:NU EDA:XX EDC:LE EE0:XX F00:LE F01:XX F18:EX ",
    "F1A:XX F20:NU F2A:XX F35:EX F36:XX F37:EX F38:XX F39:EX F3A:CL F3E:EX F40:LE F48:XX F49:LE ",
    "F6D:XX F71:EX F85:XX F86:EX F88:LE F8D:EX F98:XX F99:EX FBD:XX FC6:EX FC7:XX 1000:LE 102B:EX ",
    "103F:LE 1040:NU 104A:ST 104C:XX 1050:LE 1056:EX 105A:LE 105E:EX 1061:LE 1062:EX 1065:LE 1067:EX ",
    "106E:LE 1071:EX 1075:LE 1082:EX 108E:LE 108F:EX 1090:NU 109A:EX 109E:XX 10A0:UP 10C6:XX 10C7:UP ",
    "10C8:XX 10CD:UP 10CE:XX 10D0:LE 10FB:XX 10FC:LO 10FD:LE 1249:XX 124A:LE 124E:XX 1250:LE 1257:XX ",
    "1258:LE 1259:XX 125A:LE 125E:XX 1260:LE 1289:XX 128A:LE 128E:XX 1290:LE 12B1:XX 12B2:LE 12B6:XX ",
    "12B8:LE 12BF:XX 12C0:LE 12C1:XX 12C2:LE 12C6:XX 12C8:LE 12D7:XX 12D8:LE 1311:XX 1312:LE 1316:XX ",
    "1318:LE 135B:XX 135D:EX 1360:XX 1362:ST 1363:XX 1367:ST 1369:XX 1380:LE 1390:XX 13A0:UP 13F6:XX ",
    "13F8:LO 13FE:XX 1401:LE 166D:XX 166E:ST 166F:LE 1680:SP 1681:LE 169B:CL 169D:XX 16A0:LE 16EB:XX ",
    "16EE:LE 16F9:XX 1700:LE 1712:EX 1716:XX 171F:LE 1732:EX 1735:ST 1737:XX 1740:LE 1752:EX 1754:XX ",
    "1760:LE 176D:XX 176E:LE 1771:XX 1772:EX 1774:XX 1780:LE 17B4:EX 17D4:ST 17D6:XX 17D7:LE 17D8:XX ",
    "17DC:LE 17DD:EX 17DE:XX 17E0:NU 17EA:XX 1802:SC 1803:ST 1804:XX 1808:SC 1809:ST 180A:XX 180B:EX ",
    "180E:FO 180F:EX 1810:NU 181A:XX 1820:LE 1879:XX 1880:LE 1885:EX 1887:LE 18A9:EX 18AA:LE 18AB:XX ",
    "18B0:LE 18F6:XX 1900:LE 191F:XX 1920:EX 192C:XX 1930:EX 193C:XX 1944:ST 1946:NU 1950:LE 196E:XX ",
    "1970:LE 1975:XX 1980:LE 19AC:XX 19B0:LE 19CA:XX 19D0:NU 19DA:XX 1A00:LE 1A17:EX 1A1C:XX 1A20:LE ",
    "1A55:EX 1A5F:XX 1A60:EX 1A7D:XX 1A7F:EX 1A80:NU 1A8A:XX 1A90:NU 1A9A:XX 1AA7:LE 1AA8:ST 1AAC:XX ",
    "1AB0:EX 1ACF:XX 1B00:EX 1B05:LE 1B34:EX 1B45:LE 1B4D:XX 1B4E:ST 1B50:NU 1B5A:ST 1B5C:XX 1B5E:ST ",
    "1B60:XX 1B6B:EX 1B74:XX 1B7D:ST 1B80:EX 1B83:LE 1BA1:EX 1BAE:LE 1BB0:NU 1BBA:LE 1BE6:EX 1BF4:XX ",
    "1C00:LE 1C24:EX 1C38:XX 1C3B:ST 1C3D:XX 1C40:NU 1C4A:XX 1C4D:LE 1C50:NU 1C5A:LE 1C7E:ST 1C80:LO ",
    "1C89:UP 1C8A:LO 1C8B:XX 1C90:LE 1CBB:XX 1CBD:LE 1CC0:XX 1CD0:EX 1CD3:XX 1CD4:EX 1CE9:LE 1CED:EX ",
    "1CEE:LE 1CF4:EX 1CF5:LE 1CF7:EX 1CFA:LE 1CFB:XX 1D00:LO 1DC0:EX 1E00:UP 1E01:LO 1E02:UP 1E03:LO ",
    "1E04:UP 1E05:LO 1E06:UP 1E07:LO 1E08:UP 1E09:LO 1E0A:UP 1E0B:LO 1E0C:UP 1E0D:LO 1E0E:UP 1E0F:LO ",
    "1E10:UP 1E11:LO 1E12:UP 1E13:LO 1E14:UP 1E15:LO 1E16:UP 1E17:LO 1E18:UP 1E19:LO 1E1A:UP 1E1B:LO ",
    "1E1C:UP 1E1D:LO 1E1E:UP 1E1F:LO 1E20:UP 1E21:LO 1E22:UP 1E23:LO 1E24:UP 1E25:LO 1E26:UP 1E27:LO ",
    "1E28:UP 1E29:LO 1E2A:UP 1E2B:LO 1E2C:UP 1E2D:LO 1E2E:UP 1E2F:LO 1E30:UP 1E31:LO 1E32:UP 1E33:LO ",
    "1E34:UP 1E35:LO 1E36:UP 1E37:LO 1E38:UP 1E39:LO 1E3A:UP 1E3B:LO 1E3C:UP 1E3D:LO 1E3E:UP 1E3F:LO ",
    "1E40:UP 1E41:LO 1E42:UP 1E43:LO 1E44:UP 1E45:LO 1E46:UP 1E47:LO 1E48:UP 1E49:LO 1E4A:UP 1E4B:LO ",
    "1E4C:UP 1E4D:LO 1E4E:UP 1E4F:LO 1E50:UP 1E51:LO 1E52:UP 1E53:LO 1E54:UP 1E55:LO 1E56:UP 1E57:LO ",
    "1E58:UP 1E59:LO 1E5A:UP 1E5B:LO 1E5C:UP 1E5D:LO 1E5E:UP 1E5F:LO 1E60:UP 1E61:LO 1E62:UP 1E63:LO ",
    "1E64:UP 1E65:LO 1E66:UP 1E67:LO 1E68:UP 1E69:LO 1E6A:UP 1E6B:LO 1E6C:UP 1E6D:LO 1E6E:UP 1E6F:LO ",
    "1E70:UP 1E71:LO 1E72:UP 1E73:LO 1E74:UP 1E75:LO 1E76:UP 1E77:LO 1E78:UP 1E79:LO 1E7A:UP 1E7B:LO ",
    "1E7C:UP 1E7D:LO 1E7E:UP 1E7F:LO 1E80:UP 1E81:LO 1E82:UP 1E83:LO 1E84:UP 1E85:LO 1E86:UP 1E87:LO ",
    "1E88:UP 1E89:LO 1E8A:UP 1E8B:LO 1E8C:UP 1E8D:LO 1E8E:UP 1E8F:LO 1E90:UP 1E91:LO 1E92:UP 1E93:LO ",
    "1E94:UP 1E95:LO 1E9E:UP 1E9F:LO 1EA0:UP 1EA1:LO 1EA2:UP 1EA3:LO 1EA4:UP 1EA5:LO 1EA6:UP 1EA7:LO ",
    "1EA8:UP 1EA9:LO 1EAA:UP 1EAB:LO 1EAC:UP 1EAD:LO 1EAE:UP 1EAF:LO 1EB0:UP 1EB1:LO 1EB2:UP 1EB3:LO ",
    "1EB4:UP 1EB5:LO 1EB6:UP 1EB7:LO 1EB8:UP 1EB9:LO 1EBA:UP 1EBB:LO 1EBC:UP 1EBD:LO 1EBE:UP 1EBF:LO ",
    "1EC0:UP 1EC1:LO 1EC2:UP 1EC3:LO 1EC4:UP 1EC5:LO 1EC6:UP 1EC7:LO 1EC8:UP 1EC9:LO 1ECA:UP 1ECB:LO ",
    "1ECC:UP 1ECD:LO 1ECE:UP 1ECF:LO 1ED0:UP 1ED1:LO 1ED2:UP 1ED3:LO 1ED4:UP 1ED5:LO 1ED6:UP 1ED7:LO ",
    "1ED8:UP 1ED9:LO 1EDA:UP 1EDB:LO 1EDC:UP 1EDD:LO 1EDE:UP 1EDF:LO 1EE0:UP 1EE1:LO 1EE2:UP 1EE3:LO ",
    "1EE4:UP 1EE5:LO 1EE6:UP 1EE7:LO 1EE8:UP 1EE9:LO 1EEA:UP 1EEB:LO 1EEC:UP 1EED:LO 1EEE:UP 1EEF:LO ",
    "1EF0:UP 1EF1:LO 1EF2:UP 1EF3:LO 1EF4:UP 1EF5:LO 1EF6:UP 1EF7:LO 1EF8:UP 1EF9:LO 1EFA:UP 1EFB:LO ",
    "1EFC:UP 1EFD:LO 1EFE:UP 1EFF:LO 1F08:UP 1F10:LO 1F16:XX 1F18:UP 1F1E:XX 1F20:LO 1F28:UP 1F30:LO ",
    "1F38:UP 1F40:LO 1F46:XX 1F48:UP 1F4E:XX 1F50:LO 1F58:XX 1F59:UP 1F5A:XX 1F5B:UP 1F5C:XX 1F5D:UP ",
    "1F5E:XX 1F5F:UP 1F60:LO 1F68:UP 1F70:LO 1F7E:XX 1F80:LO 1F88:UP 1F90:LO 1F98:UP 1FA0:LO 1FA8:UP ",
    "1FB0:LO 1FB5:XX 1FB6:LO 1FB8:UP 1FBD:XX 1FBE:LO 1FBF:XX 1FC2:LO 1FC5:XX 1FC6:LO 1FC8:UP 1FCD:XX ",
    "1FD0:LO 1FD4:XX 1FD6:LO 1FD8:UP 1FDC:XX 1FE0:LO 1FE8:UP 1FED:XX 1FF2:LO 1FF5:XX 1FF6:LO 1FF8:UP ",
    "1FFD:XX 2000:SP 200B:FO 200C:EX 200E:FO 2010:XX 2013:SC 2015:XX 2018:CL 2020:XX 2024:AT 2025:XX ",
    "2028:SE 202A:FO 202F:SP 2030:XX 2039:CL 203B:XX 203C:ST 203E:XX 2045:CL 2047:ST 204A:XX 205F:SP ",
    "2060:FO 2065:XX 2066:FO 2070:XX 2071:LO 2072:XX 207D:CL 207F:LO 2080:XX 208D:CL 208F:XX 2090:LO ",
    "209D:XX 20D0:EX 20F1:XX 2102:UP 2103:XX 2107:UP 2108:XX 210A:LO 210B:UP 210E:LO 2110:UP 2113:LO ",
    "2114:XX 2115:UP 2116:XX 2119:UP 211E:XX 2124:UP 2125:XX 2126:UP 2127:XX 2128:UP 2129:XX 212A:UP ",
    "212E:XX 212F:LO 2130:UP 2134:LO 2135:LE 2139:LO 213A:XX 213C:LO 213E:UP 2140:XX 2145:UP 2146:LO ",
    "214A:XX 214E:LO 214F:XX 2160:UP 2170:LO 2180:LE 2183:UP 2184:LO 2185:LE 2189:XX 2308:CL 230C:XX ",
    "2329:CL 232B:XX 24B6:UP 24D0:LO 24EA:XX 275B:CL 2761:XX 2768:CL 2776:XX 27C5:CL 27C7:XX 27E6:CL ",
    "27F0:XX 2983:CL 2999:XX 29D8:CL 29DC:XX 29FC:CL 29FE:XX 2C00:UP 2C30:LO 2C60:UP 2C61:LO 2C62:UP ",
    "2C65:LO 2C67:UP 2C68:LO 2C69:UP 2C6A:LO 2C6B:UP 2C6C:LO 2C6D:UP 2C71:LO 2C72:UP 2C73:LO 2C75:UP ",
    "2C76:LO 2C7E:UP 2C81:LO 2C82:UP 2C83:LO 2C84:UP 2C85:LO 2C86:UP 2C87:LO 2C88:UP 2C89:LO 2C8A:UP ",
    "2C8B:LO 2C8C:UP 2C8D:LO 2C8E:UP 2C8F:LO 2C90:UP 2C91:LO 2C92:UP 2C93:LO 2C94:UP 2C95:LO 2C96:UP ",
    "2C97:LO 2C98:UP 2C99:LO 2C9A:UP 2C9B:LO 2C9C:UP 2C9D:LO 2C9E:UP 2C9F:LO 2CA0:UP 2CA1:LO 2CA2:UP ",
    "2CA3:LO 2CA4:UP 2CA5:LO 2CA6:UP 2CA7:LO 2CA8:UP 2CA9:LO 2CAA:UP 2CAB:LO 2CAC:UP 2CAD:LO 2CAE:UP ",
    "2CAF:LO 2CB0:UP 2CB1:LO 2CB2:UP 2CB3:LO 2CB4:UP 2CB5:LO 2CB6:UP 2CB7:LO 2CB8:UP 2CB9:LO 2CBA:UP ",
    "2CBB:LO 2CBC:UP 2CBD:LO 2CBE:UP 2CBF:LO 2CC0:UP 2CC1:LO 2CC2:UP 2CC3:LO 2CC4:UP 2CC5:LO 2CC6:UP ",
    "2CC7:LO 2CC8:UP 2CC9:LO 2CCA:UP 2CCB:LO 2CCC:UP 2CCD:LO 2CCE:UP 2CCF:LO 2CD0:UP 2CD1:LO 2CD2:UP ",
    "2CD3:LO 2CD4:UP 2CD5:LO 2CD6:UP 2CD7:LO 2CD8:UP 2CD9:LO 2CDA:UP 2CDB:LO 2CDC:UP 2CDD:LO 2CDE:UP ",
    "2CDF:LO 2CE0:UP 2CE1:LO 2CE2:UP 2CE3:LO 2CE5:XX 2CEB:UP 2CEC:LO 2CED:UP 2CEE:LO 2CEF:EX 2CF2:UP ",
    "2CF3:LO 2CF4:XX 2CF9:ST 2CFC:XX 2D00:LO 2D26:XX 2D27:LO 2D28:XX 2D2D:LO 2D2E:XX 2D30:LE 2D68:XX ",
    "2D6F:LE 2D70:XX 2D7F:EX 2D80:LE 2D97:XX 2DA0:LE 2DA7:XX 2DA8:LE 2DAF:XX 2DB0:LE 2DB7:XX 2DB8:LE ",
    "2DBF:XX 2DC0:LE 2DC7:XX 2DC8:LE 2DCF:XX 2DD0:LE 2DD7:XX 2DD8:LE 2DDF:XX 2DE0:EX 2E00:CL 2E0E:XX ",
    "2E1C:CL 2E1E:XX 2E20:CL 2E2A:XX 2E2E:ST 2E2F:LE 2E30:XX 2E3C:ST 2E3D:XX 2E42:CL 2E43:XX 2E53:ST ",
    "2E55:CL 2E5D:XX 3000:SP 3001:SC 3002:ST 3003:XX 3005:LE 3008:CL 3012:XX 3014:CL 301C:XX 301D:CL ",
    "3020:XX 3021:LE 302A:EX 3030:XX 3031:LE 3036:XX 3038:LE 303D:XX 3041:LE 3097:XX 3099:EX 309B:XX ",
    "309D:LE 30A0:XX 30A1:LE 30FB:XX 30FC:LE 3100:XX 3105:LE 3130:XX 3131:LE 318F:XX 31A0:LE 31C0:XX ",
    "31F0:LE 3200:XX 3400:LE 4DC0:XX 4E00:LE A48D:XX A4D0:LE A4FE:XX A4FF:ST A500:LE A60D:XX A60E:ST ",
    "A610:LE A620:NU A62A:LE A62C:XX A640:UP A641:LO A642:UP A643:LO A644:UP A645:LO A646:UP A647:LO ",
    "A648:UP A649:LO A64A:UP A64B:LO A64C:UP A64D:LO A64E:UP A64F:LO A650:UP A651:LO A652:UP A653:LO ",
    "A654:UP A655:LO A656:UP A657:LO A658:UP A659:LO A65A:UP A65B:LO A65C:UP A65D:LO A65E:UP A65F:LO ",
    "A660:UP A661:LO A662:UP A663:LO A664:UP A665:LO A666:UP A667:LO A668:UP A669:LO A66A:UP A66B:LO ",
    "A66C:UP A66D:LO A66E:LE A66F:EX A673:XX A674:EX A67E:XX A67F:LE A680:UP A681:LO A682:UP A683:LO ",
    "A684:UP A685:LO A686:UP A687:LO A688:UP A689:LO A68A:UP A68B:LO A68C:UP A68D:LO A68E:UP A68F:LO ",
    "A690:UP A691:LO A692:UP A693:LO A694:UP A695:LO A696:UP A697:LO A698:UP A699:LO A69A:UP A69B:LO ",
    "A69E:EX A6A0:LE A6F0:EX A6F2:XX A6F3:ST A6F4:XX A6F7:ST A6F8:XX A717:LE A720:XX A722:UP A723:LO ",
    "A724:UP A725:LO A726:UP A727:LO A728:UP A729:LO A72A:UP A72B:LO A72C:UP A72D:LO A72E:UP A72F:LO ",
    "A732:UP A733:LO A734:UP A735:LO A736:UP A737:LO A738:UP A739:LO A73A:UP A73B:LO A73C:UP A73D:LO ",
    "A73E:UP A73F:LO A740:UP A741:LO A742:UP A743:LO A744:UP A745:LO A746:UP A747:LO A748:UP A749:LO ",
    "A74A:UP A74B:LO A74C:UP A74D:LO A74E:UP A74F:LO A750:UP A751:LO A752:UP A753:LO A754:UP A755:LO ",
    "A756:UP A757:LO A758:UP A759:LO A75A:UP A75B:LO A75C:UP A75D:LO A75E:UP A75F:LO A760:UP A761:LO ",
    "A762:UP A763:LO A764:UP A765:LO A766:UP A767:LO A768:UP A769:LO A76A:UP A76B:LO A76C:UP A76D:LO ",
    "A76E:UP A76F:LO A779:UP A77A:LO A77B:UP A77C:LO A77D:UP A77F:LO A780:UP A781:LO A782:UP A783:LO ",
    "A784:UP A785:LO A786:UP A787:LO A788:LE A789:XX A78B:UP A78C:LO A78D:UP A78E:LO A78F:LE A790:UP ",
    "A791:LO A792:UP A793:LO A796:UP A797:LO A798:UP A799:LO A79A:UP A79B:LO A79C:UP A79D:LO A79E:UP ",
    "A79F:LO A7A0:UP A7A1:LO A7A2:UP A7A3:LO A7A4:UP A7A5:LO A7A6:UP A7A7:LO A7A8:UP A7A9:LO A7AA:UP ",
    "A7AF:LO A7B0:UP A7B5:LO A7B6:UP A7B7:LO A7B8:UP A7B9:LO A7BA:UP A7BB:LO A7BC:UP A7BD:LO A7BE:UP ",
    "A7BF:LO A7C0:UP A7C1:LO A7C2:UP A7C3:LO A7C4:UP A7C8:LO A7C9:UP A7CA:LO A7CB:UP A7CD:LO A7CE:XX ",
    "A7D0:UP A7D1:LO A7D2:XX A7D3:LO A7D4:XX A7D5:LO A7D6:UP A7D7:LO A7D8:UP A7D9:LO A7DA:UP A7DB:LO ",
    "A7DC:UP A7DD:XX A7F2:LO A7F5:UP A7F6:LO A7F7:LE A7F8:LO A7FB:LE A802:EX A803:LE A806:EX A807:LE ",
    "A80B:EX A80C:LE A823:EX A828:XX A82C:EX A82D:XX A840:LE A874:XX A876:ST A878:XX A880:EX A882:LE ",
    "A8B4:EX A8C6:XX A8CE:ST A8D0:NU A8DA:XX A8E0:EX A8F2:LE A8F8:XX A8FB:LE A8FC:XX A8FD:LE A8FF:EX ",
    "A900:NU A90A:LE A926:EX A92E:XX A92F:ST A930:LE A947:EX A954:XX A960:LE A97D:XX A980:EX A984:LE ",
    "A9B3:EX A9C1:XX A9C8:ST A9CA:XX A9CF:LE A9D0:NU A9DA:XX A9E0:LE A9E5:EX A9E6:LE A9F0:NU A9FA:LE ",
    "A9FF:XX AA00:LE AA29:EX AA37:XX AA40:LE AA43:EX AA44:LE AA4C:EX AA4E:XX AA50:NU AA5A:XX AA5D:ST ",
    "AA60:LE AA77:XX AA7A:LE AA7B:EX AA7E:LE AAB0:EX AAB1:LE AAB2:EX AAB5:LE AAB7:EX AAB9:LE AABE:EX ",
    "AAC0:LE AAC1:EX AAC2:LE AAC3:XX AADB:LE AADE:XX AAE0:LE AAEB:EX AAF0:ST AAF2:LE AAF5:EX AAF7:XX ",
    "AB01:LE AB07:XX AB09:LE AB0F:XX AB11:LE AB17:XX AB20:LE AB27:XX AB28:LE AB2F:XX AB30:LO AB5B:XX ",
    "AB5C:LO AB6A:XX AB70:LO ABC0:LE ABE3:EX ABEB:ST ABEC:EX ABEE:XX ABF0:NU ABFA:XX AC00:LE D7A4:XX ",
    "D7B0:LE D7C7:XX D7CB:LE D7FC:XX F900:LE FA6E:XX FA70:LE FADA:XX FB00:LO FB07:XX FB13:LO FB18:XX ",
    "FB1D:LE FB1E:EX FB1F:LE FB29:XX FB2A:LE FB37:XX FB38:LE FB3D:XX FB3E:LE FB3F:XX FB40:LE FB42:XX ",
    "FB43:LE FB45:XX FB46:LE FBB2:XX FBD3:LE FD3E:CL FD40:XX FD50:LE FD90:XX FD92:LE FDC8:XX FDF0:LE ",
    "FDFC:XX FE00:EX FE10:SC FE12:ST FE13:SC FE15:ST FE17:CL FE19:XX FE20:EX FE30:XX FE31:SC FE33:XX ",
    "FE35:CL FE45:XX FE47:CL FE49:XX FE50:SC FE52:AT FE53:XX FE54:SC FE56:ST FE58:SC FE59:CL FE5F:XX ",
    "FE63:SC FE64:XX FE70:LE FE75:XX FE76:LE FEFD:XX FEFF:FO FF00:XX FF01:ST FF02:XX FF08:CL FF0A:XX ",
    "FF0C:SC FF0E:AT FF0F:XX FF10:NU FF1A:SC FF1C:XX FF1F:ST FF20:XX FF21:UP FF3B:CL FF3C:XX FF3D:CL ",
    "FF3E:XX FF41:LO FF5B:CL FF5C:XX FF5D:CL FF5E:XX FF5F:CL FF61:ST FF62:CL FF64:SC FF65:XX FF66:LE ",
    "FF9E:EX FFA0:LE FFBF:XX FFC2:LE FFC8:XX FFCA:LE FFD0:XX FFD2:LE FFD8:XX FFDA:LE FFDD:XX FFF9:FO ",
    "FFFC:XX 10000:LE 1000C:XX 1000D:LE 10027:XX 10028:LE 1003B:XX 1003C:LE 1003E:XX 1003F:LE ",
    "1004E:XX 10050:LE 1005E:XX 10080:LE 100FB:XX 10140:LE 10175:XX 101FD:EX 101FE:XX 10280:LE ",
    "1029D:XX 102A0:LE 102D1:XX 102E0:EX 102E1:XX 10300:LE 10320:XX 1032D:LE 1034B:XX 10350:LE ",
    "10376:EX 1037B:XX 10380:LE 1039E:XX 103A0:LE 103C4:XX 103C8:LE 103D0:XX 103D1:LE 103D6:XX ",
    "10400:UP 10428:LO 10450:LE 1049E:XX 104A0:NU 104AA:XX 104B0:UP 104D4:XX 104D8:LO 104FC:XX ",
    "10500:LE 10528:XX 10530:LE 10564:XX 10570:UP 1057B:XX 1057C:UP 1058B:XX 1058C:UP 10593:XX ",
    "10594:UP 10596:XX 10597:LO 105A2:XX 105A3:LO 105B2:XX 105B3:LO 105BA:XX 105BB:LO 105BD:XX ",
    "105C0:LE 105F4:XX 10600:LE 10737:XX 10740:LE 10756:XX 10760:LE 10768:XX 10780:LO 10781:LE ",
    "10783:LO 10786:XX 10787:LO 107B1:XX 107B2:LO 107BB:XX 10800:LE 10806:XX 10808:LE 10809:XX ",
    "1080A:LE 10836:XX 10837:LE 10839:XX 1083C:LE 1083D:XX 1083F:LE 10856:XX 10860:LE 10877:XX ",
    "10880:LE 1089F:XX 108E0:LE 108F3:XX 108F4:LE 108F6:XX 10900:LE 10916:XX 10920:LE 1093A:XX ",
    "10980:LE 109B8:XX 109BE:LE 109C0:XX 10A00:LE 10A01:EX 10A04:XX 10A05:EX 10A07:XX 10A0C:EX ",
    "10A10:LE 10A14:XX 10A15:LE 10A18:XX 10A19:LE 10A36:XX 10A38:EX 10A3B:XX 10A3F:EX 10A40:XX ",
    "10A56:ST 10A58:XX 10A60:LE 10A7D:XX 10A80:LE 10A9D:XX 10AC0:LE 10AC8:XX 10AC9:LE 10AE5:EX ",
    "10AE7:XX 10B00:LE 10B36:XX 10B40:LE 10B56:XX 10B60:LE 10B73:XX 10B80:LE 10B92:XX 10C00:LE ",
    "10C49:XX 10C80:UP 10CB3:XX 10CC0:LO 10CF3:XX 10D00:LE 10D24:EX 10D28:XX 10D30:NU 10D3A:XX ",
    "10D40:NU 10D4A:LE 10D50:UP 10D66:XX 10D69:EX 10D6E:XX 10D6F:LE 10D70:LO 10D86:XX 10E80:LE ",
    "10EAA:XX 10EAB:EX 10EAD:XX 10EB0:LE 10EB2:XX 10EC2:LE 10EC5:XX 10EFC:EX 10F00:LE 10F1D:XX ",
    "10F27:LE 10F28:XX 10F30:LE 10F46:EX 10F51:XX 10F55:ST 10F5A:XX 10F70:LE 10F82:EX 10F86:ST ",
    "10F8A:XX 10FB0:LE 10FC5:XX 10FE0:LE 10FF7:XX 11000:EX 11003:LE 11038:EX 11047:ST 11049:XX ",
    "11066:NU 11070:EX 11071:LE 11073:EX 11075:LE 11076:XX 1107F:EX 11083:LE 110B0:EX 110BB:XX ",
    "110BD:FO 110BE:ST 110C2:EX 110C3:XX 110CD:FO 110CE:XX 110D0:LE 110E9:XX 110F0:NU 110FA:XX ",
    "11100:EX 11103:LE 11127:EX 11135:XX 11136:NU 11140:XX 11141:ST 11144:LE 11145:EX 11147:LE ",
    "11148:XX 11150:LE 11173:EX 11174:XX 11176:LE 11177:XX 11180:EX 11183:LE 111B3:EX 111C1:LE ",
    "111C5:ST 111C7:XX 111C9:EX 111CD:ST 111CE:EX 111D0:NU 111DA:LE 111DB:XX 111DC:LE 111DD:XX ",
    "111DE:ST 111E0:XX 11200:LE 11212:XX 11213:LE 1122C:EX 11238:ST 1123A:XX 1123B:ST 1123D:XX ",
    "1123E:EX 1123F:LE 11241:EX 11242:XX 11280:LE 11287:XX 11288:LE 11289:XX 1128A:LE 1128E:XX ",
    "1128F:LE 1129E:XX 1129F:LE 112A9:ST 112AA:XX 112B0:LE 112DF:EX 112EB:XX 112F0:NU 112FA:XX ",
    "11300:EX 11304:XX 11305:LE 1130D:XX 1130F:LE 11311:XX 11313:LE 11329:XX 1132A:LE 11331:XX ",
    "11332:LE 11334:XX 11335:LE 1133A:XX 1133B:EX 1133D:LE 1133E:EX 11345:XX 11347:EX 11349:XX ",
    "1134B:EX 1134E:XX 11350:LE 11351:XX 11357:EX 11358:XX 1135D:LE 11362:EX 11364:XX 11366:EX ",
    "1136D:XX 11370:EX 11375:XX 11380:LE 1138A:XX 1138B:LE 1138C:XX 1138E:LE 1138F:XX 11390:LE ",
    "113B6:XX 113B7:LE 113B8:EX 113C1:XX 113C2:EX 113C3:XX 113C5:EX 113C6:XX 113C7:EX 113CB:XX ",
    "113CC:EX 113D1:LE 113D2:EX 113D3:LE 113D4:ST 113D6:XX 113E1:EX 113E3:XX 11400:LE 11435:EX ",
    "11447:LE 1144B:ST 1144D:XX 11450:NU 1145A:XX 1145E:EX 1145F:LE 11462:XX 11480:LE 114B0:EX ",
    "114C4:LE 114C6:XX 114C7:LE 114C8:XX 114D0:NU 114DA:XX 11580:LE 115AF:EX 115B6:XX 115B8:EX ",
    "115C1:XX 115C2:ST 115C4:XX 115C9:ST 115D8:LE 115DC:EX 115DE:XX 11600:LE 11630:EX 11641:ST ",
    "11643:XX 11644:LE 11645:XX 11650:NU 1165A:XX 11680:LE 116AB:EX 116B8:LE 116B9:XX 116C0:NU ",
    "116CA:XX 116D0:NU 116E4:XX 11700:LE 1171B:XX 1171D:EX 1172C:XX 11730:NU 1173A:XX 1173C:ST ",
    "1173F:XX 11740:LE 11747:XX 11800:LE 1182C:EX 1183B:XX 118A0:UP 118C0:LO 118E0:NU 118EA:XX ",
    "118FF:LE 11907:XX 11909:LE 1190A:XX 1190C:LE 11914:XX 11915:LE 11917:XX 11918:LE 11930:EX ",
    "11936:XX 11937:EX 11939:XX 1193B:EX 1193F:LE 11940:EX 11941:LE 11942:EX 11944:ST 11945:XX ",
    "11946:ST 11947:XX 11950:NU 1195A:XX 119A0:LE 119A8:XX 119AA:LE 119D1:EX 119D8:XX 119DA:EX ",
    "119E1:LE 119E2:XX 119E3:LE 119E4:EX 119E5:XX 11A00:LE 11A01:EX 11A0B:LE 11A33:EX 11A3A:LE ",
    "11A3B:EX 11A3F:XX 11A42:ST 11A44:XX 11A47:EX 11A48:XX 11A50:LE 11A51:EX 11A5C:LE 11A8A:EX ",
    "11A9A:XX 11A9B:ST 11A9D:LE 11A9E:XX 11AB0:LE 11AF9:XX 11BC0:LE 11BE1:XX 11BF0:NU 11BFA:XX ",
    "11C00:LE 11C09:XX 11C0A:LE 11C2F:EX 11C37:XX 11C38:EX 11C40:LE 11C41:ST 11C43:XX 11C50:NU ",
    "11C5A:XX 11C72:LE 11C90:XX 11C92:EX 11CA8:XX 11CA9:EX 11CB7:XX 11D00:LE 11D07:XX 11D08:LE ",
    "11D0A:XX 11D0B:LE 11D31:EX 11D37:XX 11D3A:EX 11D3B:XX 11D3C:EX 11D3E:XX 11D3F:EX 11D46:LE ",
    "11D47:EX 11D48:XX 11D50:NU 11D5A:XX 11D60:LE 11D66:XX 11D67:LE 11D69:XX 11D6A:LE 11D8A:EX ",
    "11D8F:XX 11D90:EX 11D92:XX 11D93:EX 11D98:LE 11D99:XX 11DA0:NU 11DAA:XX 11EE0:LE 11EF3:EX ",
    "11EF7:ST 11EF9:XX 11F00:EX 11F02:LE 11F03:EX 11F04:LE 11F11:XX 11F12:LE 11F34:EX 11F3B:XX ",
    "11F3E:EX 11F43:ST 11F45:XX 11F50:NU 11F5A:EX 11F5B:XX 11FB0:LE 11FB1:XX 12000:LE 1239A:XX ",
    "12400:LE 1246F:XX 12480:LE 12544:XX 12F90:LE 12FF1:XX 13000:LE 13430:FO 13440:EX 13441:LE ",
    "13447:EX 13456:XX 13460:LE 143FB:XX 14400:LE 14647:XX 16100:LE 1611E:EX 16130:NU 1613A:XX ",
    "16800:LE 16A39:XX 16A40:LE 16A5F:XX 16A60:NU 16A6A:XX 16A6E:ST 16A70:LE 16ABF:XX 16AC0:NU ",
    "16ACA:XX 16AD0:LE 16AEE:XX 16AF0:EX 16AF5:ST 16AF6:XX 16B00:LE 16B30:EX 16B37:ST 16B39:XX ",
    "16B40:LE 16B44:ST 16B45:XX 16B50:NU 16B5A:XX 16B63:LE 16B78:XX 16B7D:LE 16B90:XX 16D40:LE ",
    "16D6D:XX 16D6E:ST 16D70:NU 16D7A:XX 16E40:UP 16E60:LO 16E80:XX 16E98:ST 16E99:XX 16F00:LE ",
    "16F4B:XX 16F4F:EX 16F50:LE 16F51:EX 16F88:XX 16F8F:EX 16F93:LE 16FA0:XX 16FE0:LE 16FE2:XX ",
    "16FE3:LE 16FE4:EX 16FE5:XX 16FF0:EX 16FF2:XX 17000:LE 187F8:XX 18800:LE 18CD6:XX 18CFF:LE ",
    "18D09:XX 1AFF0:LE 1AFF4:XX 1AFF5:LE 1AFFC:XX 1AFFD:LE 1AFFF:XX 1B000:LE 1B123:XX 1B132:LE ",
    "1B133:XX 1B150:LE 1B153:XX 1B155:LE 1B156:XX 1B164:LE 1B168:XX 1B170:LE 1B2FC:XX 1BC00:LE ",
    "1BC6B:XX 1BC70:LE 1BC7D:XX 1BC80:LE 1BC89:XX 1BC90:LE 1BC9A:XX 1BC9D:EX 1BC9F:ST 1BCA0:FO ",
    "1BCA4:XX 1CCF0:NU 1CCFA:XX 1CF00:EX 1CF2E:XX 1CF30:EX 1CF47:XX 1D165:EX 1D16A:XX 1D16D:EX ",
    "1D173:FO 1D17B:EX 1D183:XX 1D185:EX 1D18C:XX 1D1AA:EX 1D1AE:XX 1D242:EX 1D245:XX 1D400:UP ",
    "1D41A:LO 1D434:UP 1D44E:LO 1D455:XX 1D456:LO 1D468:UP 1D482:LO 1D49C:UP 1D49D:XX 1D49E:UP ",
    "1D4A0:XX 1D4A2:UP 1D4A3:XX 1D4A5:UP 1D4A7:XX 1D4A9:UP 1D4AD:XX 1D4AE:UP 1D4B6:LO 1D4BA:XX ",
    "1D4BB:LO 1D4BC:XX 1D4BD:LO 1D4C4:XX 1D4C5:LO 1D4D0:UP 1D4EA:LO 1D504:UP 1D506:XX 1D507:UP ",
    "1D50B:XX 1D50D:UP 1D515:XX 1D516:UP 1D51D:XX 1D51E:LO 1D538:UP 1D53A:XX 1D53B:UP 1D53F:XX ",
    "1D540:UP 1D545:XX 1D546:UP 1D547:XX 1D54A:UP 1D551:XX 1D552:LO 1D56C:UP 1D586:LO 1D5A0:UP ",
    "1D5BA:LO 1D5D4:UP 1D5EE:LO 1D608:UP 1D622:LO 1D63C:UP 1D656:LO 1D670:UP 1D68A:LO 1D6A6:XX ",
    "1D6A8:UP 1D6C1:XX 1D6C2:LO 1D6DB:XX 1D6DC:LO 1D6E2:UP 1D6FB:XX 1D6FC:LO 1D715:XX 1D716:LO ",
    "1D71C:UP 1D735:XX 1D736:LO 1D74F:XX 1D750:LO 1D756:UP 1D76F:XX 1D770:LO 1D789:XX 1D78A:LO ",
    "1D790:UP 1D7A9:XX 1D7AA:LO 1D7C3:XX 1D7C4:LO 1D7CA:UP 1D7CB:LO 1D7CC:XX 1D7CE:NU 1D800:XX ",
    "1DA00:EX 1DA37:XX 1DA3B:EX 1DA6D:XX 1DA75:EX 1DA76:XX 1DA84:EX 1DA85:XX 1DA88:ST 1DA89:XX ",
    "1DA9B:EX 1DAA0:XX 1DAA1:EX 1DAB0:XX 1DF00:LO 1DF0A:LE 1DF0B:LO 1DF1F:XX 1DF25:LO 1DF2B:XX ",
    "1E000:EX 1E007:XX 1E008:EX 1E019:XX 1E01B:EX 1E022:XX 1E023:EX 1E025:XX 1E026:EX 1E02B:XX ",
    "1E030:LO 1E06E:XX 1E08F:EX 1E090:XX 1E100:LE 1E12D:XX 1E130:EX 1E137:LE 1E13E:XX 1E140:NU ",
    "1E14A:XX 1E14E:LE 1E14F:XX 1E290:LE 1E2AE:EX 1E2AF:XX 1E2C0:LE 1E2EC:EX 1E2F0:NU 1E2FA:XX ",
    "1E4D0:LE 1E4EC:EX 1E4F0:NU 1E4FA:XX 1E5D0:LE 1E5EE:EX 1E5F0:LE 1E5F1:NU 1E5FB:XX 1E7E0:LE ",
    "1E7E7:XX 1E7E8:LE 1E7EC:XX 1E7ED:LE 1E7EF:XX 1E7F0:LE 1E7FF:XX 1E800:LE 1E8C5:XX 1E8D0:EX ",
    "1E8D7:XX 1E900:UP 1E922:LO 1E944:EX 1E94B:LE 1E94C:XX 1E950:NU 1E95A:XX 1EE00:LE 1EE04:XX ",
    "1EE05:LE 1EE20:XX 1EE21:LE 1EE23:XX 1EE24:LE 1EE25:XX 1EE27:LE 1EE28:XX 1EE29:LE 1EE33:XX ",
    "1EE34:LE 1EE38:XX 1EE39:LE 1EE3A:XX 1EE3B:LE 1EE3C:XX 1EE42:LE 1EE43:XX 1EE47:LE 1EE48:XX ",
    "1EE49:LE 1EE4A:XX 1EE4B:LE 1EE4C:XX 1EE4D:LE 1EE50:XX 1EE51:LE 1EE53:XX 1EE54:LE 1EE55:XX ",
    "1EE57:LE 1EE58:XX 1EE59:LE 1EE5A:XX 1EE5B:LE 1EE5C:XX 1EE5D:LE 1EE5E:XX 1EE5F:LE 1EE60:XX ",
    "1EE61:LE 1EE63:XX 1EE64:LE 1EE65:XX 1EE67:LE 1EE6B:XX 1EE6C:LE 1EE73:XX 1EE74:LE 1EE78:XX ",
    "1EE79:LE 1EE7D:XX 1EE7E:LE 1EE7F:XX 1EE80:LE 1EE8A:XX 1EE8B:LE 1EE9C:XX 1EEA1:LE 1EEA4:XX ",
    "1EEA5:LE 1EEAA:XX 1EEAB:LE 1EEBC:XX 1F130:UP 1F14A:XX 1F150:UP 1F16A:XX 1F170:UP 1F18A:XX ",
    "1F676:CL 1F679:XX 1FBF0:NU 1FBFA:XX 20000:LE 2A6E0:XX 2A700:LE 2B73A:XX 2B740:LE 2B81E:XX ",
    "2B820:LE 2CEA2:XX 2CEB0:LE 2EBE1:XX 2EBF0:LE 2EE5E:XX 2F800:LE 2FA1E:XX 30000:LE 3134B:XX ",
    "31350:LE 323B0:XX E0001:FO E0002:XX E0020:EX E0080:XX E0100:EX E01F0:XX"]

namespace Segmentation

/-- The run table of a segmentation. -/
def table : Segmentation → String
  | .grapheme => graphemeBreakTable
  | .word => wordBreakTable
  | .sentence => sentenceBreakTable

/-- The classes of a segmentation: short name, then long name, comma-separated. -/
def valueNames : Segmentation → String
  | .grapheme => "CN,Control CR,CR EX,Extend L,L LF,LF LV,LV LVT,LVT PP,Prepend RI,Regional_Indicator SM,SpacingMark T,T V,V XX,Other ZWJ,ZWJ EB,E_Base EBG,E_Base_GAZ EM,E_Modifier GAZ,Glue_After_Zwj"
  | .word => "CR,CR DQ,Double_Quote EX,ExtendNumLet Extend,Extend FO,Format HL,Hebrew_Letter KA,Katakana LE,ALetter LF,LF MB,MidNumLet ML,MidLetter MN,MidNum NL,Newline NU,Numeric RI,Regional_Indicator SQ,Single_Quote WSegSpace,WSegSpace XX,Other ZWJ,ZWJ EB,E_Base EBG,E_Base_GAZ EM,E_Modifier GAZ,Glue_After_Zwj"
  | .sentence => "AT,ATerm CL,Close CR,CR EX,Extend FO,Format LE,OLetter LF,LF LO,Lower NU,Numeric SC,SContinue SE,Sep SP,Sp ST,STerm UP,Upper XX,Other"

/-- The runs `(start, class)` of a segmentation's table. -/
def runs (s : Segmentation) : List (Nat × String) :=
  ((s.table.splitOn " ").filter (fun w => !w.isEmpty)).map fun w =>
    match w.splitOn ":" with
    | [start, code] => (CodeSet.hexValue start.toList, code)
    | _ => (CodeSet.hexValue w.toList, "XX")

/-- The code points of the class with short name `code`, if the class has a table. -/
def classSet? (s : Segmentation) (code : String) : Option CodeSet :=
  let rs := s.runs
  if code != "XX" && rs.any (·.2 == code) then some (CodeSet.ofRanges (runRanges rs (· == code)))
  else none

end Segmentation

end Text

end RecordQuery
