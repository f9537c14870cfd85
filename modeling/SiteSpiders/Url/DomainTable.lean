/-!
# Characters in domain names

For each run of code points beyond ASCII, by its first one: `V` stays, `I` is dropped, `X` is
refused, `=` is replaced by the listed code points, and `+` or `~` shifts the
code point up or down.
-/
namespace SiteSpiders.Url

/-- The mapping of code points beyond ASCII in domain names. -/
def domainText : String :=
  "80:X a0:=20 a1:V a8:=20,308 a9:V aa:=61 ab:V ad:I ae:V af:=20,304 b0:V
   b2:~80 b4:=20,301 b5:=3bc b6:V b8:=20,327 b9:=31 ba:=6f bb:V bc:=31,2044,34 bd:=31,2044,32
   be:=33,2044,34 bf:V c0:+20 d7:V d8:+20 df:V 100:=101 101:V 102:=103 103:V 104:=105 105:V
   106:=107 107:V 108:=109 109:V 10a:=10b 10b:V 10c:=10d 10d:V 10e:=10f 10f:V 110:=111 111:V
   112:=113 113:V 114:=115 115:V 116:=117 117:V 118:=119 119:V 11a:=11b 11b:V 11c:=11d 11d:V
   11e:=11f 11f:V 120:=121 121:V 122:=123 123:V 124:=125 125:V 126:=127 127:V 128:=129 129:V
   12a:=12b 12b:V 12c:=12d 12d:V 12e:=12f 12f:V 130:=69,307 131:V 132:=69,6a 134:=135 135:V
   136:=137 137:V 139:=13a 13a:V 13b:=13c 13c:V 13d:=13e 13e:V 13f:=6c,b7 141:=142 142:V
   143:=144 144:V 145:=146 146:V 147:=148 148:V 149:=2bc,6e 14a:=14b 14b:V 14c:=14d 14d:V
   14e:=14f 14f:V 150:=151 151:V 152:=153 153:V 154:=155 155:V 156:=157 157:V 158:=159 159:V
   15a:=15b 15b:V 15c:=15d 15d:V 15e:=15f 15f:V 160:=161 161:V 162:=163 163:V 164:=165 165:V
   166:=167 167:V 168:=169 169:V 16a:=16b 16b:V 16c:=16d 16d:V 16e:=16f 16f:V 170:=171 171:V
   172:=173 173:V 174:=175 175:V 176:=177 177:V 178:=ff 179:=17a 17a:V 17b:=17c 17c:V 17d:=17e
   17e:V 17f:=73 180:V 181:=253 182:=183 183:V 184:=185 185:V 186:=254 187:=188 188:V 189:+cd
   18b:=18c 18c:V 18e:=1dd 18f:=259 190:=25b 191:=192 192:V 193:=260 194:=263 195:V 196:=269
   197:=268 198:=199 199:V 19c:=26f 19d:=272 19e:V 19f:=275 1a0:=1a1 1a1:V 1a2:=1a3 1a3:V
   1a4:=1a5 1a5:V 1a6:=280 1a7:=1a8 1a8:V 1a9:=283 1aa:V 1ac:=1ad 1ad:V 1ae:=288 1af:=1b0
   1b0:V 1b1:+d9 1b3:=1b4 1b4:V 1b5:=1b6 1b6:V 1b7:=292 1b8:=1b9 1b9:V 1bc:=1bd 1bd:V
   1c4:=64,17e 1c7:=6c,6a 1ca:=6e,6a 1cd:=1ce 1ce:V 1cf:=1d0 1d0:V 1d1:=1d2 1d2:V 1d3:=1d4
   1d4:V 1d5:=1d6 1d6:V 1d7:=1d8 1d8:V 1d9:=1da 1da:V 1db:=1dc 1dc:V 1de:=1df 1df:V 1e0:=1e1
   1e1:V 1e2:=1e3 1e3:V 1e4:=1e5 1e5:V 1e6:=1e7 1e7:V 1e8:=1e9 1e9:V 1ea:=1eb 1eb:V 1ec:=1ed
   1ed:V 1ee:=1ef 1ef:V 1f1:=64,7a 1f4:=1f5 1f5:V 1f6:=195 1f7:=1bf 1f8:=1f9 1f9:V 1fa:=1fb
   1fb:V 1fc:=1fd 1fd:V 1fe:=1ff 1ff:V 200:=201 201:V 202:=203 203:V 204:=205 205:V 206:=207
   207:V 208:=209 209:V 20a:=20b 20b:V 20c:=20d 20d:V 20e:=20f 20f:V 210:=211 211:V 212:=213
   213:V 214:=215 215:V 216:=217 217:V 218:=219 219:V 21a:=21b 21b:V 21c:=21d 21d:V 21e:=21f
   21f:V 220:=19e 221:V 222:=223 223:V 224:=225 225:V 226:=227 227:V 228:=229 229:V 22a:=22b
   22b:V 22c:=22d 22d:V 22e:=22f 22f:V 230:=231 231:V 232:=233 233:V 23a:=2c65 23b:=23c 23c:V
   23d:=19a 23e:=2c66 23f:V 241:=242 242:V 243:=180 244:=289 245:=28c 246:=247 247:V 248:=249
   249:V 24a:=24b 24b:V 24c:=24d 24d:V 24e:=24f 24f:V 2b0:=68 2b1:=266 2b2:=6a 2b3:=72
   2b4:=279 2b5:=27b 2b6:=281 2b7:=77 2b8:=79 2b9:V 2d8:=20,306 2d9:=20,307 2da:=20,30a
   2db:=20,328 2dc:=20,303 2dd:=20,30b 2de:V 2e0:=263 2e1:=6c 2e2:=73 2e3:=78 2e4:=295 2e5:V
   340:~40 342:V 343:=313 344:=308,301 345:=3b9 346:V 34f:I 350:V 370:=371 371:V 372:=373
   373:V 374:=2b9 375:V 376:=377 377:V 378:X 37a:=20,3b9 37b:V 37e:=3b 37f:=3f3 380:X
   384:=20,301 385:=20,308,301 386:=3ac 387:=b7 388:+25 38b:X 38c:=3cc 38d:X 38e:+3f 390:V
   391:+20 3a2:X 3a3:+20 3ac:V 3cf:=3d7 3d0:=3b2 3d1:=3b8 3d2:=3c5 3d3:=3cd 3d4:=3cb 3d5:=3c6
   3d6:=3c0 3d7:V 3d8:=3d9 3d9:V 3da:=3db 3db:V 3dc:=3dd 3dd:V 3de:=3df 3df:V 3e0:=3e1 3e1:V
   3e2:=3e3 3e3:V 3e4:=3e5 3e5:V 3e6:=3e7 3e7:V 3e8:=3e9 3e9:V 3ea:=3eb 3eb:V 3ec:=3ed 3ed:V
   3ee:=3ef 3ef:V 3f0:=3ba 3f1:=3c1 3f2:=3c3 3f3:V 3f4:=3b8 3f5:=3b5 3f6:V 3f7:=3f8 3f8:V
   3f9:=3c3 3fa:=3fb 3fb:V 3fd:~82 400:+50 410:+20 430:V 460:=461 461:V 462:=463 463:V
   464:=465 465:V 466:=467 467:V 468:=469 469:V 46a:=46b 46b:V 46c:=46d 46d:V 46e:=46f 46f:V
   470:=471 471:V 472:=473 473:V 474:=475 475:V 476:=477 477:V 478:=479 479:V 47a:=47b 47b:V
   47c:=47d 47d:V 47e:=47f 47f:V 480:=481 481:V 48a:=48b 48b:V 48c:=48d 48d:V 48e:=48f 48f:V
   490:=491 491:V 492:=493 493:V 494:=495 495:V 496:=497 497:V 498:=499 499:V 49a:=49b 49b:V
   49c:=49d 49d:V 49e:=49f 49f:V 4a0:=4a1 4a1:V 4a2:=4a3 4a3:V 4a4:=4a5 4a5:V 4a6:=4a7 4a7:V
   4a8:=4a9 4a9:V 4aa:=4ab 4ab:V 4ac:=4ad 4ad:V 4ae:=4af 4af:V 4b0:=4b1 4b1:V 4b2:=4b3 4b3:V
   4b4:=4b5 4b5:V 4b6:=4b7 4b7:V 4b8:=4b9 4b9:V 4ba:=4bb 4bb:V 4bc:=4bd 4bd:V 4be:=4bf 4bf:V
   4c0:=4cf 4c1:=4c2 4c2:V 4c3:=4c4 4c4:V 4c5:=4c6 4c6:V 4c7:=4c8 4c8:V 4c9:=4ca 4ca:V
   4cb:=4cc 4cc:V 4cd:=4ce 4ce:V 4d0:=4d1 4d1:V 4d2:=4d3 4d3:V 4d4:=4d5 4d5:V 4d6:=4d7 4d7:V
   4d8:=4d9 4d9:V 4da:=4db 4db:V 4dc:=4dd 4dd:V 4de:=4df 4df:V 4e0:=4e1 4e1:V 4e2:=4e3 4e3:V
   4e4:=4e5 4e5:V 4e6:=4e7 4e7:V 4e8:=4e9 4e9:V 4ea:=4eb 4eb:V 4ec:=4ed 4ed:V 4ee:=4ef 4ef:V
   4f0:=4f1 4f1:V 4f2:=4f3 4f3:V 4f4:=4f5 4f5:V 4f6:=4f7 4f7:V 4f8:=4f9 4f9:V 4fa:=4fb 4fb:V
   4fc:=4fd 4fd:V 4fe:=4ff 4ff:V 500:=501 501:V 502:=503 503:V 504:=505 505:V 506:=507 507:V
   508:=509 509:V 50a:=50b 50b:V 50c:=50d 50d:V 50e:=50f 50f:V 510:=511 511:V 512:=513 513:V
   514:=515 515:V 516:=517 517:V 518:=519 519:V 51a:=51b 51b:V 51c:=51d 51d:V 51e:=51f 51f:V
   520:=521 521:V 522:=523 523:V 524:=525 525:V 526:=527 527:V 528:=529 529:V 52a:=52b 52b:V
   52c:=52d 52d:V 52e:=52f 52f:V 530:X 531:+30 557:X 559:V 587:=565,582 588:V 58b:X 58d:V
   590:X 591:V 5c8:X 5d0:V 5eb:X 5ef:V 5f5:X 606:V 61c:X 61d:V 675:=627,674 676:=648,674
   677:=6c7,674 678:=64a,674 679:V 6dd:X 6de:V 70e:X 710:V 74b:X 74d:V 7b2:X 7c0:V 7fb:X 7fd:V
   82e:X 830:V 83f:X 840:V 85c:X 85e:V 85f:X 860:V 86b:X 870:V 890:X 897:V 8e2:X 8e3:V
   958:=915,93c 959:=916,93c 95a:=917,93c 95b:=91c,93c 95c:=921,93c 95d:=922,93c 95e:=92b,93c
   95f:=92f,93c 960:V 984:X 985:V 98d:X 98f:V 991:X 993:V 9a9:X 9aa:V 9b1:X 9b2:V 9b3:X 9b6:V
   9ba:X 9bc:V 9c5:X 9c7:V 9c9:X 9cb:V 9cf:X 9d7:V 9d8:X 9dc:=9a1,9bc 9dd:=9a2,9bc 9de:X
   9df:=9af,9bc 9e0:V 9e4:X 9e6:V 9ff:X a01:V a04:X a05:V a0b:X a0f:V a11:X a13:V a29:X a2a:V
   a31:X a32:V a33:=a32,a3c a34:X a35:V a36:=a38,a3c a37:X a38:V a3a:X a3c:V a3d:X a3e:V a43:X
   a47:V a49:X a4b:V a4e:X a51:V a52:X a59:=a16,a3c a5a:=a17,a3c a5b:=a1c,a3c a5c:V a5d:X
   a5e:=a2b,a3c a5f:X a66:V a77:X a81:V a84:X a85:V a8e:X a8f:V a92:X a93:V aa9:X aaa:V ab1:X
   ab2:V ab4:X ab5:V aba:X abc:V ac6:X ac7:V aca:X acb:V ace:X ad0:V ad1:X ae0:V ae4:X ae6:V
   af2:X af9:V b00:X b01:V b04:X b05:V b0d:X b0f:V b11:X b13:V b29:X b2a:V b31:X b32:V b34:X
   b35:V b3a:X b3c:V b45:X b47:V b49:X b4b:V b4e:X b55:V b58:X b5c:=b21,b3c b5d:=b22,b3c b5e:X
   b5f:V b64:X b66:V b78:X b82:V b84:X b85:V b8b:X b8e:V b91:X b92:V b96:X b99:V b9b:X b9c:V
   b9d:X b9e:V ba0:X ba3:V ba5:X ba8:V bab:X bae:V bba:X bbe:V bc3:X bc6:V bc9:X bca:V bce:X
   bd0:V bd1:X bd7:V bd8:X be6:V bfb:X c00:V c0d:X c0e:V c11:X c12:V c29:X c2a:V c3a:X c3c:V
   c45:X c46:V c49:X c4a:V c4e:X c55:V c57:X c58:V c5b:X c5c:V c5e:X c60:V c64:X c66:V c70:X
   c77:V c8d:X c8e:V c91:X c92:V ca9:X caa:V cb4:X cb5:V cba:X cbc:V cc5:X cc6:V cc9:X cca:V
   cce:X cd5:V cd7:X cdc:V cdf:X ce0:V ce4:X ce6:V cf0:X cf1:V cf4:X d00:V d0d:X d0e:V d11:X
   d12:V d45:X d46:V d49:X d4a:V d50:X d54:V d64:X d66:V d80:X d81:V d84:X d85:V d97:X d9a:V
   db2:X db3:V dbc:X dbd:V dbe:X dc0:V dc7:X dca:V dcb:X dcf:V dd5:X dd6:V dd7:X dd8:V de0:X
   de6:V df0:X df2:V df5:X e01:V e33:=e4d,e32 e34:V e3b:X e3f:V e5c:X e81:V e83:X e84:V e85:X
   e86:V e8b:X e8c:V ea4:X ea5:V ea6:X ea7:V eb3:=ecd,eb2 eb4:V ebe:X ec0:V ec5:X ec6:V ec7:X
   ec8:V ecf:X ed0:V eda:X edc:=eab,e99 edd:=eab,ea1 ede:V ee0:X f00:V f0c:=f0b f0d:V
   f43:=f42,fb7 f44:V f48:X f49:V f4d:=f4c,fb7 f4e:V f52:=f51,fb7 f53:V f57:=f56,fb7 f58:V
   f5c:=f5b,fb7 f5d:V f69:=f40,fb5 f6a:V f6d:X f71:V f73:=f71,f72 f74:V f75:=f71,f74
   f76:=fb2,f80 f77:=fb2,f71,f80 f78:=fb3,f80 f79:=fb3,f71,f80 f7a:V f81:=f71,f80 f82:V
   f93:=f92,fb7 f94:V f98:X f99:V f9d:=f9c,fb7 f9e:V fa2:=fa1,fb7 fa3:V fa7:=fa6,fb7 fa8:V
   fac:=fab,fb7 fad:V fb9:=f90,fb5 fba:V fbd:X fbe:V fcd:X fce:V fdb:X 1000:V 10a0:+1c60
   10c6:X 10c7:=2d27 10c8:X 10cd:=2d2d 10ce:X 10d0:V 10fc:=10dc 10fd:V 115f:I 1161:V 1249:X
   124a:V 124e:X 1250:V 1257:X 1258:V 1259:X 125a:V 125e:X 1260:V 1289:X 128a:V 128e:X 1290:V
   12b1:X 12b2:V 12b6:X 12b8:V 12bf:X 12c0:V 12c1:X 12c2:V 12c6:X 12c8:V 12d7:X 12d8:V 1311:X
   1312:V 1316:X 1318:V 135b:X 135d:V 137d:X 1380:V 139a:X 13a0:V 13f6:X 13f8:~8 13fe:X 1400:V
   1680:X 1681:V 169d:X 16a0:V 16f9:X 1700:V 1716:X 171f:V 1737:X 1740:V 1754:X 1760:V 176d:X
   176e:V 1771:X 1772:V 1774:X 1780:V 17b4:I 17b6:V 17de:X 17e0:V 17ea:X 17f0:V 17fa:X 1800:V
   180b:I 1810:V 181a:X 1820:V 1879:X 1880:V 18ab:X 18b0:V 18f6:X 1900:V 191f:X 1920:V 192c:X
   1930:V 193c:X 1940:V 1941:X 1944:V 196e:X 1970:V 1975:X 1980:V 19ac:X 19b0:V 19ca:X 19d0:V
   19db:X 19de:V 1a1c:X 1a1e:V 1a5f:X 1a60:V 1a7d:X 1a7f:V 1a8a:X 1a90:V 1a9a:X 1aa0:V 1aae:X
   1ab0:V 1ade:X 1ae0:V 1aec:X 1b00:V 1b4d:X 1b4e:V 1bf4:X 1bfc:V 1c38:X 1c3b:V 1c4a:X 1c4d:V
   1c80:=432 1c81:=434 1c82:=43e 1c83:=441 1c84:=442 1c86:=44a 1c87:=463 1c88:=a64b 1c89:=1c8a
   1c8a:V 1c8b:X 1c90:~bc0 1cbb:X 1cbd:~bc0 1cc0:V 1cc8:X 1cd0:V 1cfb:X 1d00:V 1d2c:=61
   1d2d:=e6 1d2e:=62 1d2f:V 1d30:~1ccc 1d32:=1dd 1d33:~1ccc 1d3b:V 1d3c:=6f 1d3d:=223 1d3e:=70
   1d3f:=72 1d40:~1ccc 1d42:=77 1d43:=61 1d44:~1af4 1d46:=1d02 1d47:=62 1d48:~1ce4 1d4a:=259
   1d4b:~1af0 1d4d:=67 1d4e:V 1d4f:=6b 1d50:=6d 1d51:=14b 1d52:=6f 1d53:=254 1d54:~3e 1d56:=70
   1d57:~1ce3 1d59:=1d1d 1d5a:=26f 1d5b:=76 1d5c:=1d25 1d5d:~19ab 1d60:~199a 1d62:=69 1d63:=72
   1d64:~1cef 1d66:~19b4 1d68:=3c1 1d69:~19a3 1d6b:V 1d78:=43d 1d79:V 1d9b:=252 1d9c:=63
   1d9d:=255 1d9e:=f0 1d9f:=25c 1da0:=66 1da1:=25f 1da2:=261 1da3:=265 1da4:~1b3c 1da7:=1d7b
   1da8:=29d 1da9:=26d 1daa:=1d85 1dab:=29f 1dac:=271 1dad:=270 1dae:~1b3c 1db2:=278
   1db3:~1b31 1db5:=1ab 1db6:~1b2d 1db8:=1d1c 1db9:~1b2e 1dbb:=7a 1dbc:~1b2c 1dbf:=3b8 1dc0:V
   1e00:=1e01 1e01:V 1e02:=1e03 1e03:V 1e04:=1e05 1e05:V 1e06:=1e07 1e07:V 1e08:=1e09 1e09:V
   1e0a:=1e0b 1e0b:V 1e0c:=1e0d 1e0d:V 1e0e:=1e0f 1e0f:V 1e10:=1e11 1e11:V 1e12:=1e13 1e13:V
   1e14:=1e15 1e15:V 1e16:=1e17 1e17:V 1e18:=1e19 1e19:V 1e1a:=1e1b 1e1b:V 1e1c:=1e1d 1e1d:V
   1e1e:=1e1f 1e1f:V 1e20:=1e21 1e21:V 1e22:=1e23 1e23:V 1e24:=1e25 1e25:V 1e26:=1e27 1e27:V
   1e28:=1e29 1e29:V 1e2a:=1e2b 1e2b:V 1e2c:=1e2d 1e2d:V 1e2e:=1e2f 1e2f:V 1e30:=1e31 1e31:V
   1e32:=1e33 1e33:V 1e34:=1e35 1e35:V 1e36:=1e37 1e37:V 1e38:=1e39 1e39:V 1e3a:=1e3b 1e3b:V
   1e3c:=1e3d 1e3d:V 1e3e:=1e3f 1e3f:V 1e40:=1e41 1e41:V 1e42:=1e43 1e43:V 1e44:=1e45 1e45:V
   1e46:=1e47 1e47:V 1e48:=1e49 1e49:V 1e4a:=1e4b 1e4b:V 1e4c:=1e4d 1e4d:V 1e4e:=1e4f 1e4f:V
   1e50:=1e51 1e51:V 1e52:=1e53 1e53:V 1e54:=1e55 1e55:V 1e56:=1e57 1e57:V 1e58:=1e59 1e59:V
   1e5a:=1e5b 1e5b:V 1e5c:=1e5d 1e5d:V 1e5e:=1e5f 1e5f:V 1e60:=1e61 1e61:V 1e62:=1e63 1e63:V
   1e64:=1e65 1e65:V 1e66:=1e67 1e67:V 1e68:=1e69 1e69:V 1e6a:=1e6b 1e6b:V 1e6c:=1e6d 1e6d:V
   1e6e:=1e6f 1e6f:V 1e70:=1e71 1e71:V 1e72:=1e73 1e73:V 1e74:=1e75 1e75:V 1e76:=1e77 1e77:V
   1e78:=1e79 1e79:V 1e7a:=1e7b 1e7b:V 1e7c:=1e7d 1e7d:V 1e7e:=1e7f 1e7f:V 1e80:=1e81 1e81:V
   1e82:=1e83 1e83:V 1e84:=1e85 1e85:V 1e86:=1e87 1e87:V 1e88:=1e89 1e89:V 1e8a:=1e8b 1e8b:V
   1e8c:=1e8d 1e8d:V 1e8e:=1e8f 1e8f:V 1e90:=1e91 1e91:V 1e92:=1e93 1e93:V 1e94:=1e95 1e95:V
   1e9a:=61,2be 1e9b:=1e61 1e9c:V 1e9e:=df 1e9f:V 1ea0:=1ea1 1ea1:V 1ea2:=1ea3 1ea3:V
   1ea4:=1ea5 1ea5:V 1ea6:=1ea7 1ea7:V 1ea8:=1ea9 1ea9:V 1eaa:=1eab 1eab:V 1eac:=1ead 1ead:V
   1eae:=1eaf 1eaf:V 1eb0:=1eb1 1eb1:V 1eb2:=1eb3 1eb3:V 1eb4:=1eb5 1eb5:V 1eb6:=1eb7 1eb7:V
   1eb8:=1eb9 1eb9:V 1eba:=1ebb 1ebb:V 1ebc:=1ebd 1ebd:V 1ebe:=1ebf 1ebf:V 1ec0:=1ec1 1ec1:V
   1ec2:=1ec3 1ec3:V 1ec4:=1ec5 1ec5:V 1ec6:=1ec7 1ec7:V 1ec8:=1ec9 1ec9:V 1eca:=1ecb 1ecb:V
   1ecc:=1ecd 1ecd:V 1ece:=1ecf 1ecf:V 1ed0:=1ed1 1ed1:V 1ed2:=1ed3 1ed3:V 1ed4:=1ed5 1ed5:V
   1ed6:=1ed7 1ed7:V 1ed8:=1ed9 1ed9:V 1eda:=1edb 1edb:V 1edc:=1edd 1edd:V 1ede:=1edf 1edf:V
   1ee0:=1ee1 1ee1:V 1ee2:=1ee3 1ee3:V 1ee4:=1ee5 1ee5:V 1ee6:=1ee7 1ee7:V 1ee8:=1ee9 1ee9:V
   1eea:=1eeb 1eeb:V 1eec:=1eed 1eed:V 1eee:=1eef 1eef:V 1ef0:=1ef1 1ef1:V 1ef2:=1ef3 1ef3:V
   1ef4:=1ef5 1ef5:V 1ef6:=1ef7 1ef7:V 1ef8:=1ef9 1ef9:V 1efa:=1efb 1efb:V 1efc:=1efd 1efd:V
   1efe:=1eff 1eff:V 1f08:~8 1f10:V 1f16:X 1f18:~8 1f1e:X 1f20:V 1f28:~8 1f30:V 1f38:~8 1f40:V
   1f46:X 1f48:~8 1f4e:X 1f50:V 1f58:X 1f59:=1f51 1f5a:X 1f5b:=1f53 1f5c:X 1f5d:=1f55 1f5e:X
   1f5f:=1f57 1f60:V 1f68:~8 1f70:V 1f71:=3ac 1f72:V 1f73:=3ad 1f74:V 1f75:=3ae 1f76:V
   1f77:=3af 1f78:V 1f79:=3cc 1f7a:V 1f7b:=3cd 1f7c:V 1f7d:=3ce 1f7e:X 1f80:=1f00,3b9
   1f81:=1f01,3b9 1f82:=1f02,3b9 1f83:=1f03,3b9 1f84:=1f04,3b9 1f85:=1f05,3b9 1f86:=1f06,3b9
   1f87:=1f07,3b9 1f88:=1f00,3b9 1f89:=1f01,3b9 1f8a:=1f02,3b9 1f8b:=1f03,3b9 1f8c:=1f04,3b9
   1f8d:=1f05,3b9 1f8e:=1f06,3b9 1f8f:=1f07,3b9 1f90:=1f20,3b9 1f91:=1f21,3b9 1f92:=1f22,3b9
   1f93:=1f23,3b9 1f94:=1f24,3b9 1f95:=1f25,3b9 1f96:=1f26,3b9 1f97:=1f27,3b9 1f98:=1f20,3b9
   1f99:=1f21,3b9 1f9a:=1f22,3b9 1f9b:=1f23,3b9 1f9c:=1f24,3b9 1f9d:=1f25,3b9 1f9e:=1f26,3b9
   1f9f:=1f27,3b9 1fa0:=1f60,3b9 1fa1:=1f61,3b9 1fa2:=1f62,3b9 1fa3:=1f63,3b9 1fa4:=1f64,3b9
   1fa5:=1f65,3b9 1fa6:=1f66,3b9 1fa7:=1f67,3b9 1fa8:=1f60,3b9 1fa9:=1f61,3b9 1faa:=1f62,3b9
   1fab:=1f63,3b9 1fac:=1f64,3b9 1fad:=1f65,3b9 1fae:=1f66,3b9 1faf:=1f67,3b9 1fb0:V
   1fb2:=1f70,3b9 1fb3:=3b1,3b9 1fb4:=3ac,3b9 1fb5:X 1fb6:V 1fb7:=1fb6,3b9 1fb8:~8 1fba:=1f70
   1fbb:=3ac 1fbc:=3b1,3b9 1fbd:=20,313 1fbe:=3b9 1fbf:=20,313 1fc0:=20,342 1fc1:=20,308,342
   1fc2:=1f74,3b9 1fc3:=3b7,3b9 1fc4:=3ae,3b9 1fc5:X 1fc6:V 1fc7:=1fc6,3b9 1fc8:=1f72
   1fc9:=3ad 1fca:=1f74 1fcb:=3ae 1fcc:=3b7,3b9 1fcd:=20,313,300 1fce:=20,313,301
   1fcf:=20,313,342 1fd0:V 1fd3:=390 1fd4:X 1fd6:V 1fd8:~8 1fda:=1f76 1fdb:=3af 1fdc:X
   1fdd:=20,314,300 1fde:=20,314,301 1fdf:=20,314,342 1fe0:V 1fe3:=3b0 1fe4:V 1fe8:~8
   1fea:=1f7a 1feb:=3cd 1fec:=1fe5 1fed:=20,308,300 1fee:=20,308,301 1fef:=60 1ff0:X
   1ff2:=1f7c,3b9 1ff3:=3c9,3b9 1ff4:=3ce,3b9 1ff5:X 1ff6:V 1ff7:=1ff6,3b9 1ff8:=1f78
   1ff9:=3cc 1ffa:=1f7c 1ffb:=3ce 1ffc:=3c9,3b9 1ffd:=20,301 1ffe:=20,314 1fff:X 2000:=20
   200b:I 200c:V 200e:X 2010:V 2011:=2010 2012:V 2017:=20,333 2018:V 2024:X 2027:V 2028:X
   202f:=20 2030:V 2033:=2032,2032 2034:=2032,2032,2032 2035:V 2036:=2035,2035
   2037:=2035,2035,2035 2038:V 203c:=21,21 203d:V 203e:=20,305 203f:V 2047:=3f,3f 2048:=3f,21
   2049:=21,3f 204a:V 2057:=2032,2032,2032,2032 2058:V 205f:=20 2060:I 2065:X 206a:I 2070:=30
   2071:=69 2072:X 2074:~2040 207a:=2b 207b:=2212 207c:=3d 207d:~2055 207f:=6e 2080:~2050
   208a:=2b 208b:=2212 208c:=3d 208d:~2065 208f:X 2090:=61 2091:=65 2092:=6f 2093:=78
   2094:=259 2095:=68 2096:~202b 209a:=70 209b:~2028 209d:X 20a0:V 20a8:=72,73 20a9:V 20c2:X
   20d0:V 20f1:X 2100:=61,2f,63 2101:=61,2f,73 2102:=63 2103:=b0,63 2104:V 2105:=63,2f,6f
   2106:=63,2f,75 2107:=25b 2108:V 2109:=b0,66 210a:=67 210b:=68 210f:=127 2110:=69 2112:=6c
   2114:V 2115:=6e 2116:=6e,6f 2117:V 2119:~20a9 211b:=72 211e:V 2120:=73,6d 2121:=74,65,6c
   2122:=74,6d 2123:V 2124:=7a 2125:V 2126:=3c9 2127:V 2128:=7a 2129:V 212a:=6b 212b:=e5
   212c:~20ca 212e:V 212f:=65 2131:=66 2132:=214e 2133:=6d 2134:=6f 2135:~1b65 2139:=69 213a:V
   213b:=66,61,78 213c:=3c0 213d:=3b3 213f:=3c0 2140:=2211 2141:V 2145:=64 2147:=65 2148:~20df
   214a:V 2150:=31,2044,37 2151:=31,2044,39 2152:=31,2044,31,30 2153:=31,2044,33
   2154:=32,2044,33 2155:=31,2044,35 2156:=32,2044,35 2157:=33,2044,35 2158:=34,2044,35
   2159:=31,2044,36 215a:=35,2044,36 215b:=31,2044,38 215c:=33,2044,38 215d:=35,2044,38
   215e:=37,2044,38 215f:=31,2044 2160:=69 2161:=69,69 2162:=69,69,69 2163:=69,76 2164:=76
   2165:=76,69 2166:=76,69,69 2167:=76,69,69,69 2168:=69,78 2169:=78 216a:=78,69
   216b:=78,69,69 216c:=6c 216d:~210a 216f:=6d 2170:=69 2171:=69,69 2172:=69,69,69 2173:=69,76
   2174:=76 2175:=76,69 2176:=76,69,69 2177:=76,69,69,69 2178:=69,78 2179:=78 217a:=78,69
   217b:=78,69,69 217c:=6c 217d:~211a 217f:=6d 2180:V 2183:=2184 2184:V 2189:=30,2044,33
   218a:V 218c:X 2190:V 222c:=222b,222b 222d:=222b,222b,222b 222e:V 222f:=222e,222e
   2230:=222e,222e,222e 2231:V 2329:+cdf 232b:V 242a:X 2440:V 244b:X 2460:~242f 2469:=31,30
   246a:=31,31 246b:=31,32 246c:=31,33 246d:=31,34 246e:=31,35 246f:=31,36 2470:=31,37
   2471:=31,38 2472:=31,39 2473:=32,30 2474:=28,31,29 2475:=28,32,29 2476:=28,33,29
   2477:=28,34,29 2478:=28,35,29 2479:=28,36,29 247a:=28,37,29 247b:=28,38,29 247c:=28,39,29
   247d:=28,31,30,29 247e:=28,31,31,29 247f:=28,31,32,29 2480:=28,31,33,29 2481:=28,31,34,29
   2482:=28,31,35,29 2483:=28,31,36,29 2484:=28,31,37,29 2485:=28,31,38,29 2486:=28,31,39,29
   2487:=28,32,30,29 2488:X 249c:=28,61,29 249d:=28,62,29 249e:=28,63,29 249f:=28,64,29
   24a0:=28,65,29 24a1:=28,66,29 24a2:=28,67,29 24a3:=28,68,29 24a4:=28,69,29 24a5:=28,6a,29
   24a6:=28,6b,29 24a7:=28,6c,29 24a8:=28,6d,29 24a9:=28,6e,29 24aa:=28,6f,29 24ab:=28,70,29
   24ac:=28,71,29 24ad:=28,72,29 24ae:=28,73,29 24af:=28,74,29 24b0:=28,75,29 24b1:=28,76,29
   24b2:=28,77,29 24b3:=28,78,29 24b4:=28,79,29 24b5:=28,7a,29 24b6:~2455 24d0:~246f 24ea:=30
   24eb:V 2a0c:=222b,222b,222b,222b 2a0d:V 2a74:=3a,3a,3d 2a75:=3d,3d 2a76:=3d,3d,3d 2a77:V
   2adc:=2add,338 2add:V 2b74:X 2b76:V 2c00:+30 2c30:V 2c60:=2c61 2c61:V 2c62:=26b 2c63:=1d7d
   2c64:=27d 2c65:V 2c67:=2c68 2c68:V 2c69:=2c6a 2c6a:V 2c6b:=2c6c 2c6c:V 2c6d:=251 2c6e:=271
   2c6f:=250 2c70:=252 2c71:V 2c72:=2c73 2c73:V 2c75:=2c76 2c76:V 2c7c:=6a 2c7d:=76 2c7e:~2a3f
   2c80:=2c81 2c81:V 2c82:=2c83 2c83:V 2c84:=2c85 2c85:V 2c86:=2c87 2c87:V 2c88:=2c89 2c89:V
   2c8a:=2c8b 2c8b:V 2c8c:=2c8d 2c8d:V 2c8e:=2c8f 2c8f:V 2c90:=2c91 2c91:V 2c92:=2c93 2c93:V
   2c94:=2c95 2c95:V 2c96:=2c97 2c97:V 2c98:=2c99 2c99:V 2c9a:=2c9b 2c9b:V 2c9c:=2c9d 2c9d:V
   2c9e:=2c9f 2c9f:V 2ca0:=2ca1 2ca1:V 2ca2:=2ca3 2ca3:V 2ca4:=2ca5 2ca5:V 2ca6:=2ca7 2ca7:V
   2ca8:=2ca9 2ca9:V 2caa:=2cab 2cab:V 2cac:=2cad 2cad:V 2cae:=2caf 2caf:V 2cb0:=2cb1 2cb1:V
   2cb2:=2cb3 2cb3:V 2cb4:=2cb5 2cb5:V 2cb6:=2cb7 2cb7:V 2cb8:=2cb9 2cb9:V 2cba:=2cbb 2cbb:V
   2cbc:=2cbd 2cbd:V 2cbe:=2cbf 2cbf:V 2cc0:=2cc1 2cc1:V 2cc2:=2cc3 2cc3:V 2cc4:=2cc5 2cc5:V
   2cc6:=2cc7 2cc7:V 2cc8:=2cc9 2cc9:V 2cca:=2ccb 2ccb:V 2ccc:=2ccd 2ccd:V 2cce:=2ccf 2ccf:V
   2cd0:=2cd1 2cd1:V 2cd2:=2cd3 2cd3:V 2cd4:=2cd5 2cd5:V 2cd6:=2cd7 2cd7:V 2cd8:=2cd9 2cd9:V
   2cda:=2cdb 2cdb:V 2cdc:=2cdd 2cdd:V 2cde:=2cdf 2cdf:V 2ce0:=2ce1 2ce1:V 2ce2:=2ce3 2ce3:V
   2ceb:=2cec 2cec:V 2ced:=2cee 2cee:V 2cf2:=2cf3 2cf3:V 2cf4:X 2cf9:V 2d26:X 2d27:V 2d28:X
   2d2d:V 2d2e:X 2d30:V 2d68:X 2d6f:=2d61 2d70:V 2d71:X 2d7f:V 2d97:X 2da0:V 2da7:X 2da8:V
   2daf:X 2db0:V 2db7:X 2db8:V 2dbf:X 2dc0:V 2dc7:X 2dc8:V 2dcf:X 2dd0:V 2dd7:X 2dd8:V 2ddf:X
   2de0:V 2e5e:X 2e80:V 2e9a:X 2e9b:V 2e9f:=6bcd 2ea0:V 2ef3:=9f9f 2ef4:X 2f00:=4e00
   2f01:=4e28 2f02:=4e36 2f03:=4e3f 2f04:=4e59 2f05:=4e85 2f06:=4e8c 2f07:=4ea0 2f08:=4eba
   2f09:=513f 2f0a:=5165 2f0b:=516b 2f0c:=5182 2f0d:=5196 2f0e:=51ab 2f0f:=51e0 2f10:=51f5
   2f11:=5200 2f12:=529b 2f13:=52f9 2f14:=5315 2f15:=531a 2f16:=5338 2f17:=5341 2f18:=535c
   2f19:=5369 2f1a:=5382 2f1b:=53b6 2f1c:=53c8 2f1d:=53e3 2f1e:=56d7 2f1f:=571f 2f20:=58eb
   2f21:=5902 2f22:=590a 2f23:=5915 2f24:=5927 2f25:=5973 2f26:=5b50 2f27:=5b80 2f28:=5bf8
   2f29:=5c0f 2f2a:=5c22 2f2b:=5c38 2f2c:=5c6e 2f2d:=5c71 2f2e:=5ddb 2f2f:=5de5 2f30:=5df1
   2f31:=5dfe 2f32:=5e72 2f33:=5e7a 2f34:=5e7f 2f35:=5ef4 2f36:=5efe 2f37:=5f0b 2f38:=5f13
   2f39:=5f50 2f3a:=5f61 2f3b:=5f73 2f3c:=5fc3 2f3d:=6208 2f3e:=6236 2f3f:=624b 2f40:=652f
   2f41:=6534 2f42:=6587 2f43:=6597 2f44:=65a4 2f45:=65b9 2f46:=65e0 2f47:=65e5 2f48:=66f0
   2f49:=6708 2f4a:=6728 2f4b:=6b20 2f4c:=6b62 2f4d:=6b79 2f4e:=6bb3 2f4f:=6bcb 2f50:=6bd4
   2f51:=6bdb 2f52:=6c0f 2f53:=6c14 2f54:=6c34 2f55:=706b 2f56:=722a 2f57:=7236 2f58:=723b
   2f59:=723f 2f5a:=7247 2f5b:=7259 2f5c:=725b 2f5d:=72ac 2f5e:=7384 2f5f:=7389 2f60:=74dc
   2f61:=74e6 2f62:=7518 2f63:=751f 2f64:=7528 2f65:=7530 2f66:=758b 2f67:=7592 2f68:=7676
   2f69:=767d 2f6a:=76ae 2f6b:=76bf 2f6c:=76ee 2f6d:=77db 2f6e:=77e2 2f6f:=77f3 2f70:=793a
   2f71:=79b8 2f72:=79be 2f73:=7a74 2f74:=7acb 2f75:=7af9 2f76:=7c73 2f77:=7cf8 2f78:=7f36
   2f79:=7f51 2f7a:=7f8a 2f7b:=7fbd 2f7c:=8001 2f7d:=800c 2f7e:=8012 2f7f:=8033 2f80:=807f
   2f81:=8089 2f82:=81e3 2f83:=81ea 2f84:=81f3 2f85:=81fc 2f86:=820c 2f87:=821b 2f88:=821f
   2f89:=826e 2f8a:=8272 2f8b:=8278 2f8c:=864d 2f8d:=866b 2f8e:=8840 2f8f:=884c 2f90:=8863
   2f91:=897e 2f92:=898b 2f93:=89d2 2f94:=8a00 2f95:=8c37 2f96:=8c46 2f97:=8c55 2f98:=8c78
   2f99:=8c9d 2f9a:=8d64 2f9b:=8d70 2f9c:=8db3 2f9d:=8eab 2f9e:=8eca 2f9f:=8f9b 2fa0:=8fb0
   2fa1:=8fb5 2fa2:=9091 2fa3:=9149 2fa4:=91c6 2fa5:=91cc 2fa6:=91d1 2fa7:=9577 2fa8:=9580
   2fa9:=961c 2faa:=96b6 2fab:=96b9 2fac:=96e8 2fad:=9751 2fae:=975e 2faf:=9762 2fb0:=9769
   2fb1:=97cb 2fb2:=97ed 2fb3:=97f3 2fb4:=9801 2fb5:=98a8 2fb6:=98db 2fb7:=98df 2fb8:=9996
   2fb9:=9999 2fba:=99ac 2fbb:=9aa8 2fbc:=9ad8 2fbd:=9adf 2fbe:=9b25 2fbf:=9b2f 2fc0:=9b32
   2fc1:=9b3c 2fc2:=9b5a 2fc3:=9ce5 2fc4:=9e75 2fc5:=9e7f 2fc6:=9ea5 2fc7:=9ebb 2fc8:=9ec3
   2fc9:=9ecd 2fca:=9ed1 2fcb:=9ef9 2fcc:=9efd 2fcd:=9f0e 2fce:=9f13 2fcf:=9f20 2fd0:=9f3b
   2fd1:=9f4a 2fd2:=9f52 2fd3:=9f8d 2fd4:=9f9c 2fd5:=9fa0 2fd6:X 3000:=20 3001:V 3002:=2e
   3003:V 3036:=3012 3037:V 3038:=5341 3039:+230b 303b:V 3040:X 3041:V 3097:X 3099:V
   309b:=20,3099 309c:=20,309a 309d:V 309f:=3088,308a 30a0:V 30ff:=30b3,30c8 3100:X 3105:V
   3130:X 3131:~2031 3133:=11aa 3134:=1102 3135:~1f89 3137:~2034 313a:~1f8a 3140:=111a
   3141:~203b 3144:=1121 3145:~203c 314f:~1fee 3164:I 3165:~2051 3167:~1fa0 3169:=11cc
   316a:=11ce 316b:=11d3 316c:=11d7 316d:=11d9 316e:=111c 316f:=11dd 3170:=11df 3171:~2054
   3173:=1120 3174:~2052 3176:=1127 3177:=1129 3178:~204d 317d:=1132 317e:=1136 317f:=1140
   3180:=1147 3181:=114c 3182:~1f91 3184:~202d 3187:~2003 3189:=1188 318a:~1ff9 318c:=1194
   318d:=119e 318e:=11a1 318f:X 3190:V 3192:=4e00 3193:=4e8c 3194:=4e09 3195:=56db 3196:=4e0a
   3197:=4e2d 3198:=4e0b 3199:=7532 319a:=4e59 319b:=4e19 319c:=4e01 319d:=5929 319e:=5730
   319f:=4eba 31a0:V 31e6:X 31f0:V 3200:=28,1100,29 3201:=28,1102,29 3202:=28,1103,29
   3203:=28,1105,29 3204:=28,1106,29 3205:=28,1107,29 3206:=28,1109,29 3207:=28,110b,29
   3208:=28,110c,29 3209:=28,110e,29 320a:=28,110f,29 320b:=28,1110,29 320c:=28,1111,29
   320d:=28,1112,29 320e:=28,ac00,29 320f:=28,b098,29 3210:=28,b2e4,29 3211:=28,b77c,29
   3212:=28,b9c8,29 3213:=28,bc14,29 3214:=28,c0ac,29 3215:=28,c544,29 3216:=28,c790,29
   3217:=28,cc28,29 3218:=28,ce74,29 3219:=28,d0c0,29 321a:=28,d30c,29 321b:=28,d558,29
   321c:=28,c8fc,29 321d:=28,c624,c804,29 321e:=28,c624,d6c4,29 321f:X 3220:=28,4e00,29
   3221:=28,4e8c,29 3222:=28,4e09,29 3223:=28,56db,29 3224:=28,4e94,29 3225:=28,516d,29
   3226:=28,4e03,29 3227:=28,516b,29 3228:=28,4e5d,29 3229:=28,5341,29 322a:=28,6708,29
   322b:=28,706b,29 322c:=28,6c34,29 322d:=28,6728,29 322e:=28,91d1,29 322f:=28,571f,29
   3230:=28,65e5,29 3231:=28,682a,29 3232:=28,6709,29 3233:=28,793e,29 3234:=28,540d,29
   3235:=28,7279,29 3236:=28,8ca1,29 3237:=28,795d,29 3238:=28,52b4,29 3239:=28,4ee3,29
   323a:=28,547c,29 323b:=28,5b66,29 323c:=28,76e3,29 323d:=28,4f01,29 323e:=28,8cc7,29
   323f:=28,5354,29 3240:=28,796d,29 3241:=28,4f11,29 3242:=28,81ea,29 3243:=28,81f3,29
   3244:=554f 3245:=5e7c 3246:=6587 3247:=7b8f 3248:V 3250:=70,74,65 3251:=32,31 3252:=32,32
   3253:=32,33 3254:=32,34 3255:=32,35 3256:=32,36 3257:=32,37 3258:=32,38 3259:=32,39
   325a:=33,30 325b:=33,31 325c:=33,32 325d:=33,33 325e:=33,34 325f:=33,35 3260:=1100
   3261:~215f 3263:~215e 3266:=1109 3267:~215c 3269:~215b 326e:=ac00 326f:=b098 3270:=b2e4
   3271:=b77c 3272:=b9c8 3273:=bc14 3274:=c0ac 3275:=c544 3276:=c790 3277:=cc28 3278:=ce74
   3279:=d0c0 327a:=d30c 327b:=d558 327c:=cc38,ace0 327d:=c8fc,c758 327e:=c6b0 327f:V
   3280:=4e00 3281:=4e8c 3282:=4e09 3283:=56db 3284:=4e94 3285:=516d 3286:=4e03 3287:=516b
   3288:=4e5d 3289:=5341 328a:=6708 328b:=706b 328c:=6c34 328d:=6728 328e:=91d1 328f:=571f
   3290:=65e5 3291:=682a 3292:=6709 3293:=793e 3294:=540d 3295:=7279 3296:=8ca1 3297:=795d
   3298:=52b4 3299:=79d8 329a:=7537 329b:=5973 329c:=9069 329d:=512a 329e:=5370 329f:=6ce8
   32a0:=9805 32a1:=4f11 32a2:=5199 32a3:=6b63 32a4:=4e0a 32a5:=4e2d 32a6:=4e0b 32a7:=5de6
   32a8:=53f3 32a9:=533b 32aa:=5b97 32ab:=5b66 32ac:=76e3 32ad:=4f01 32ae:=8cc7 32af:=5354
   32b0:=591c 32b1:=33,36 32b2:=33,37 32b3:=33,38 32b4:=33,39 32b5:=34,30 32b6:=34,31
   32b7:=34,32 32b8:=34,33 32b9:=34,34 32ba:=34,35 32bb:=34,36 32bc:=34,37 32bd:=34,38
   32be:=34,39 32bf:=35,30 32c0:=31,6708 32c1:=32,6708 32c2:=33,6708 32c3:=34,6708
   32c4:=35,6708 32c5:=36,6708 32c6:=37,6708 32c7:=38,6708 32c8:=39,6708 32c9:=31,30,6708
   32ca:=31,31,6708 32cb:=31,32,6708 32cc:=68,67 32cd:=65,72,67 32ce:=65,76 32cf:=6c,74,64
   32d0:=30a2 32d1:=30a4 32d2:=30a6 32d3:=30a8 32d4:~22a 32d6:=30ad 32d7:=30af 32d8:=30b1
   32d9:=30b3 32da:=30b5 32db:=30b7 32dc:=30b9 32dd:=30bb 32de:=30bd 32df:=30bf 32e0:=30c1
   32e1:=30c4 32e2:=30c6 32e3:=30c8 32e4:~21a 32ea:=30d2 32eb:=30d5 32ec:=30d8 32ed:=30db
   32ee:~210 32f3:=30e4 32f4:=30e6 32f5:~20d 32fb:~20c 32ff:=4ee4,548c
   3300:=30a2,30d1,30fc,30c8 3301:=30a2,30eb,30d5,30a1 3302:=30a2,30f3,30da,30a2
   3303:=30a2,30fc,30eb 3304:=30a4,30cb,30f3,30b0 3305:=30a4,30f3,30c1 3306:=30a6,30a9,30f3
   3307:=30a8,30b9,30af,30fc,30c9 3308:=30a8,30fc,30ab,30fc 3309:=30aa,30f3,30b9
   330a:=30aa,30fc,30e0 330b:=30ab,30a4,30ea 330c:=30ab,30e9,30c3,30c8
   330d:=30ab,30ed,30ea,30fc 330e:=30ac,30ed,30f3 330f:=30ac,30f3,30de 3310:=30ae,30ac
   3311:=30ae,30cb,30fc 3312:=30ad,30e5,30ea,30fc 3313:=30ae,30eb,30c0,30fc 3314:=30ad,30ed
   3315:=30ad,30ed,30b0,30e9,30e0 3316:=30ad,30ed,30e1,30fc,30c8,30eb
   3317:=30ad,30ed,30ef,30c3,30c8 3318:=30b0,30e9,30e0 3319:=30b0,30e9,30e0,30c8,30f3
   331a:=30af,30eb,30bc,30a4,30ed 331b:=30af,30ed,30fc,30cd 331c:=30b1,30fc,30b9
   331d:=30b3,30eb,30ca 331e:=30b3,30fc,30dd 331f:=30b5,30a4,30af,30eb
   3320:=30b5,30f3,30c1,30fc,30e0 3321:=30b7,30ea,30f3,30b0 3322:=30bb,30f3,30c1
   3323:=30bb,30f3,30c8 3324:=30c0,30fc,30b9 3325:=30c7,30b7 3326:=30c9,30eb 3327:=30c8,30f3
   3328:=30ca,30ce 3329:=30ce,30c3,30c8 332a:=30cf,30a4,30c4 332b:=30d1,30fc,30bb,30f3,30c8
   332c:=30d1,30fc,30c4 332d:=30d0,30fc,30ec,30eb 332e:=30d4,30a2,30b9,30c8,30eb
   332f:=30d4,30af,30eb 3330:=30d4,30b3 3331:=30d3,30eb 3332:=30d5,30a1,30e9,30c3,30c9
   3333:=30d5,30a3,30fc,30c8 3334:=30d6,30c3,30b7,30a7,30eb 3335:=30d5,30e9,30f3
   3336:=30d8,30af,30bf,30fc,30eb 3337:=30da,30bd 3338:=30da,30cb,30d2 3339:=30d8,30eb,30c4
   333a:=30da,30f3,30b9 333b:=30da,30fc,30b8 333c:=30d9,30fc,30bf 333d:=30dd,30a4,30f3,30c8
   333e:=30dc,30eb,30c8 333f:=30db,30f3 3340:=30dd,30f3,30c9 3341:=30db,30fc,30eb
   3342:=30db,30fc,30f3 3343:=30de,30a4,30af,30ed 3344:=30de,30a4,30eb 3345:=30de,30c3,30cf
   3346:=30de,30eb,30af 3347:=30de,30f3,30b7,30e7,30f3 3348:=30df,30af,30ed,30f3
   3349:=30df,30ea 334a:=30df,30ea,30d0,30fc,30eb 334b:=30e1,30ac 334c:=30e1,30ac,30c8,30f3
   334d:=30e1,30fc,30c8,30eb 334e:=30e4,30fc,30c9 334f:=30e4,30fc,30eb 3350:=30e6,30a2,30f3
   3351:=30ea,30c3,30c8,30eb 3352:=30ea,30e9 3353:=30eb,30d4,30fc 3354:=30eb,30fc,30d6,30eb
   3355:=30ec,30e0 3356:=30ec,30f3,30c8,30b2,30f3 3357:=30ef,30c3,30c8 3358:=30,70b9
   3359:=31,70b9 335a:=32,70b9 335b:=33,70b9 335c:=34,70b9 335d:=35,70b9 335e:=36,70b9
   335f:=37,70b9 3360:=38,70b9 3361:=39,70b9 3362:=31,30,70b9 3363:=31,31,70b9
   3364:=31,32,70b9 3365:=31,33,70b9 3366:=31,34,70b9 3367:=31,35,70b9 3368:=31,36,70b9
   3369:=31,37,70b9 336a:=31,38,70b9 336b:=31,39,70b9 336c:=32,30,70b9 336d:=32,31,70b9
   336e:=32,32,70b9 336f:=32,33,70b9 3370:=32,34,70b9 3371:=68,70,61 3372:=64,61 3373:=61,75
   3374:=62,61,72 3375:=6f,76 3376:=70,63 3377:=64,6d 3378:=64,6d,32 3379:=64,6d,33
   337a:=69,75 337b:=5e73,6210 337c:=662d,548c 337d:=5927,6b63 337e:=660e,6cbb
   337f:=682a,5f0f,4f1a,793e 3380:=70,61 3381:=6e,61 3382:=3bc,61 3383:=6d,61 3384:=6b,61
   3385:=6b,62 3386:=6d,62 3387:=67,62 3388:=63,61,6c 3389:=6b,63,61,6c 338a:=70,66
   338b:=6e,66 338c:=3bc,66 338d:=3bc,67 338e:=6d,67 338f:=6b,67 3390:=68,7a 3391:=6b,68,7a
   3392:=6d,68,7a 3393:=67,68,7a 3394:=74,68,7a 3395:=3bc,6c 3396:=6d,6c 3397:=64,6c
   3398:=6b,6c 3399:=66,6d 339a:=6e,6d 339b:=3bc,6d 339c:=6d,6d 339d:=63,6d 339e:=6b,6d
   339f:=6d,6d,32 33a0:=63,6d,32 33a1:=6d,32 33a2:=6b,6d,32 33a3:=6d,6d,33 33a4:=63,6d,33
   33a5:=6d,33 33a6:=6b,6d,33 33a7:=6d,2215,73 33a8:=6d,2215,73,32 33a9:=70,61 33aa:=6b,70,61
   33ab:=6d,70,61 33ac:=67,70,61 33ad:=72,61,64 33ae:=72,61,64,2215,73
   33af:=72,61,64,2215,73,32 33b0:=70,73 33b1:=6e,73 33b2:=3bc,73 33b3:=6d,73 33b4:=70,76
   33b5:=6e,76 33b6:=3bc,76 33b7:=6d,76 33b8:=6b,76 33b9:=6d,76 33ba:=70,77 33bb:=6e,77
   33bc:=3bc,77 33bd:=6d,77 33be:=6b,77 33bf:=6d,77 33c0:=6b,3c9 33c1:=6d,3c9 33c2:X
   33c3:=62,71 33c4:=63,63 33c5:=63,64 33c6:=63,2215,6b,67 33c7:X 33c8:=64,62 33c9:=67,79
   33ca:=68,61 33cb:=68,70 33cc:=69,6e 33cd:=6b,6b 33ce:=6b,6d 33cf:=6b,74 33d0:=6c,6d
   33d1:=6c,6e 33d2:=6c,6f,67 33d3:=6c,78 33d4:=6d,62 33d5:=6d,69,6c 33d6:=6d,6f,6c
   33d7:=70,68 33d8:X 33d9:=70,70,6d 33da:=70,72 33db:=73,72 33dc:=73,76 33dd:=77,62
   33de:=76,2215,6d 33df:=61,2215,6d 33e0:=31,65e5 33e1:=32,65e5 33e2:=33,65e5 33e3:=34,65e5
   33e4:=35,65e5 33e5:=36,65e5 33e6:=37,65e5 33e7:=38,65e5 33e8:=39,65e5 33e9:=31,30,65e5
   33ea:=31,31,65e5 33eb:=31,32,65e5 33ec:=31,33,65e5 33ed:=31,34,65e5 33ee:=31,35,65e5
   33ef:=31,36,65e5 33f0:=31,37,65e5 33f1:=31,38,65e5 33f2:=31,39,65e5 33f3:=32,30,65e5
   33f4:=32,31,65e5 33f5:=32,32,65e5 33f6:=32,33,65e5 33f7:=32,34,65e5 33f8:=32,35,65e5
   33f9:=32,36,65e5 33fa:=32,37,65e5 33fb:=32,38,65e5 33fc:=32,39,65e5 33fd:=33,30,65e5
   33fe:=33,31,65e5 33ff:=67,61,6c 3400:V a48d:X a490:V a4c7:X a4d0:V a62c:X a640:=a641 a641:V
   a642:=a643 a643:V a644:=a645 a645:V a646:=a647 a647:V a648:=a649 a649:V a64a:=a64b a64b:V
   a64c:=a64d a64d:V a64e:=a64f a64f:V a650:=a651 a651:V a652:=a653 a653:V a654:=a655 a655:V
   a656:=a657 a657:V a658:=a659 a659:V a65a:=a65b a65b:V a65c:=a65d a65d:V a65e:=a65f a65f:V
   a660:=a661 a661:V a662:=a663 a663:V a664:=a665 a665:V a666:=a667 a667:V a668:=a669 a669:V
   a66a:=a66b a66b:V a66c:=a66d a66d:V a680:=a681 a681:V a682:=a683 a683:V a684:=a685 a685:V
   a686:=a687 a687:V a688:=a689 a689:V a68a:=a68b a68b:V a68c:=a68d a68d:V a68e:=a68f a68f:V
   a690:=a691 a691:V a692:=a693 a693:V a694:=a695 a695:V a696:=a697 a697:V a698:=a699 a699:V
   a69a:=a69b a69b:V a69c:=44a a69d:=44c a69e:V a6f8:X a700:V a722:=a723 a723:V a724:=a725
   a725:V a726:=a727 a727:V a728:=a729 a729:V a72a:=a72b a72b:V a72c:=a72d a72d:V a72e:=a72f
   a72f:V a732:=a733 a733:V a734:=a735 a735:V a736:=a737 a737:V a738:=a739 a739:V a73a:=a73b
   a73b:V a73c:=a73d a73d:V a73e:=a73f a73f:V a740:=a741 a741:V a742:=a743 a743:V a744:=a745
   a745:V a746:=a747 a747:V a748:=a749 a749:V a74a:=a74b a74b:V a74c:=a74d a74d:V a74e:=a74f
   a74f:V a750:=a751 a751:V a752:=a753 a753:V a754:=a755 a755:V a756:=a757 a757:V a758:=a759
   a759:V a75a:=a75b a75b:V a75c:=a75d a75d:V a75e:=a75f a75f:V a760:=a761 a761:V a762:=a763
   a763:V a764:=a765 a765:V a766:=a767 a767:V a768:=a769 a769:V a76a:=a76b a76b:V a76c:=a76d
   a76d:V a76e:=a76f a76f:V a770:=a76f a771:V a779:=a77a a77a:V a77b:=a77c a77c:V a77d:=1d79
   a77e:=a77f a77f:V a780:=a781 a781:V a782:=a783 a783:V a784:=a785 a785:V a786:=a787 a787:V
   a78b:=a78c a78c:V a78d:=265 a78e:V a790:=a791 a791:V a792:=a793 a793:V a796:=a797 a797:V
   a798:=a799 a799:V a79a:=a79b a79b:V a79c:=a79d a79d:V a79e:=a79f a79f:V a7a0:=a7a1 a7a1:V
   a7a2:=a7a3 a7a3:V a7a4:=a7a5 a7a5:V a7a6:=a7a7 a7a7:V a7a8:=a7a9 a7a9:V a7aa:=266 a7ab:=25c
   a7ac:=261 a7ad:=26c a7ae:=26a a7af:V a7b0:=29e a7b1:=287 a7b2:=29d a7b3:=ab53 a7b4:=a7b5
   a7b5:V a7b6:=a7b7 a7b7:V a7b8:=a7b9 a7b9:V a7ba:=a7bb a7bb:V a7bc:=a7bd a7bd:V a7be:=a7bf
   a7bf:V a7c0:=a7c1 a7c1:V a7c2:=a7c3 a7c3:V a7c4:=a794 a7c5:=282 a7c6:=1d8e a7c7:=a7c8
   a7c8:V a7c9:=a7ca a7ca:V a7cb:=264 a7cc:=a7cd a7cd:V a7ce:=a7cf a7cf:V a7d0:=a7d1 a7d1:V
   a7d2:=a7d3 a7d3:V a7d4:=a7d5 a7d5:V a7d6:=a7d7 a7d7:V a7d8:=a7d9 a7d9:V a7da:=a7db a7db:V
   a7dc:=19b a7dd:X a7f1:=73 a7f2:=63 a7f3:=66 a7f4:=71 a7f5:=a7f6 a7f6:V a7f8:=127 a7f9:=153
   a7fa:V a82d:X a830:V a83a:X a840:V a878:X a880:V a8c6:X a8ce:V a8da:X a8e0:V a954:X a95f:V
   a97d:X a980:V a9ce:X a9cf:V a9da:X a9de:V a9ff:X aa00:V aa37:X aa40:V aa4e:X aa50:V aa5a:X
   aa5c:V aac3:X aadb:V aaf7:X ab01:V ab07:X ab09:V ab0f:X ab11:V ab17:X ab20:V ab27:X ab28:V
   ab2f:X ab30:V ab5c:=a727 ab5d:=ab37 ab5e:=26b ab5f:=ab52 ab60:V ab69:=28d ab6a:V ab6c:X
   ab70:~97d0 abc0:V abee:X abf0:V abfa:X ac00:V d7a4:X d7b0:V d7c7:X d7cb:V d7fc:X f900:=8c48
   f901:=66f4 f902:=8eca f903:=8cc8 f904:=6ed1 f905:=4e32 f906:=53e5 f907:=9f9c f909:=5951
   f90a:=91d1 f90b:=5587 f90c:=5948 f90d:=61f6 f90e:=7669 f90f:=7f85 f910:=863f f911:=87ba
   f912:=88f8 f913:=908f f914:=6a02 f915:=6d1b f916:=70d9 f917:=73de f918:=843d f919:=916a
   f91a:=99f1 f91b:=4e82 f91c:=5375 f91d:=6b04 f91e:=721b f91f:=862d f920:=9e1e f921:=5d50
   f922:=6feb f923:=85cd f924:=8964 f925:=62c9 f926:=81d8 f927:=881f f928:=5eca f929:=6717
   f92a:=6d6a f92b:=72fc f92c:=90ce f92d:=4f86 f92e:=51b7 f92f:=52de f930:=64c4 f931:=6ad3
   f932:=7210 f933:=76e7 f934:=8001 f935:=8606 f936:=865c f937:=8def f938:=9732 f939:=9b6f
   f93a:=9dfa f93b:=788c f93c:=797f f93d:=7da0 f93e:=83c9 f93f:=9304 f940:=9e7f f941:=8ad6
   f942:=58df f943:=5f04 f944:=7c60 f945:=807e f946:=7262 f947:=78ca f948:=8cc2 f949:=96f7
   f94a:=58d8 f94b:=5c62 f94c:=6a13 f94d:=6dda f94e:=6f0f f94f:=7d2f f950:=7e37 f951:=964b
   f952:=52d2 f953:=808b f954:=51dc f955:=51cc f956:=7a1c f957:=7dbe f958:=83f1 f959:=9675
   f95a:=8b80 f95b:=62cf f95c:=6a02 f95d:=8afe f95e:=4e39 f95f:=5be7 f960:=6012 f961:=7387
   f962:=7570 f963:=5317 f964:=78fb f965:=4fbf f966:=5fa9 f967:=4e0d f968:=6ccc f969:=6578
   f96a:=7d22 f96b:=53c3 f96c:=585e f96d:=7701 f96e:=8449 f96f:=8aaa f970:=6bba f971:=8fb0
   f972:=6c88 f973:=62fe f974:=82e5 f975:=63a0 f976:=7565 f977:=4eae f978:=5169 f979:=51c9
   f97a:=6881 f97b:=7ce7 f97c:=826f f97d:=8ad2 f97e:=91cf f97f:=52f5 f980:=5442 f981:=5973
   f982:=5eec f983:=65c5 f984:=6ffe f985:=792a f986:=95ad f987:=9a6a f988:=9e97 f989:=9ece
   f98a:=529b f98b:=66c6 f98c:=6b77 f98d:=8f62 f98e:=5e74 f98f:=6190 f990:=6200 f991:=649a
   f992:=6f23 f993:=7149 f994:=7489 f995:=79ca f996:=7df4 f997:=806f f998:=8f26 f999:=84ee
   f99a:=9023 f99b:=934a f99c:=5217 f99d:=52a3 f99e:=54bd f99f:=70c8 f9a0:=88c2 f9a1:=8aaa
   f9a2:=5ec9 f9a3:=5ff5 f9a4:=637b f9a5:=6bae f9a6:=7c3e f9a7:=7375 f9a8:=4ee4 f9a9:=56f9
   f9aa:=5be7 f9ab:=5dba f9ac:=601c f9ad:=73b2 f9ae:=7469 f9af:=7f9a f9b0:=8046 f9b1:=9234
   f9b2:=96f6 f9b3:=9748 f9b4:=9818 f9b5:=4f8b f9b6:=79ae f9b7:=91b4 f9b8:=96b8 f9b9:=60e1
   f9ba:=4e86 f9bb:=50da f9bc:=5bee f9bd:=5c3f f9be:=6599 f9bf:=6a02 f9c0:=71ce f9c1:=7642
   f9c2:=84fc f9c3:=907c f9c4:=9f8d f9c5:=6688 f9c6:=962e f9c7:=5289 f9c8:=677b f9c9:=67f3
   f9ca:=6d41 f9cb:=6e9c f9cc:=7409 f9cd:=7559 f9ce:=786b f9cf:=7d10 f9d0:=985e f9d1:=516d
   f9d2:=622e f9d3:=9678 f9d4:=502b f9d5:=5d19 f9d6:=6dea f9d7:=8f2a f9d8:=5f8b f9d9:=6144
   f9da:=6817 f9db:=7387 f9dc:=9686 f9dd:=5229 f9de:=540f f9df:=5c65 f9e0:=6613 f9e1:=674e
   f9e2:=68a8 f9e3:=6ce5 f9e4:=7406 f9e5:=75e2 f9e6:=7f79 f9e7:=88cf f9e8:=88e1 f9e9:=91cc
   f9ea:=96e2 f9eb:=533f f9ec:=6eba f9ed:=541d f9ee:=71d0 f9ef:=7498 f9f0:=85fa f9f1:=96a3
   f9f2:=9c57 f9f3:=9e9f f9f4:=6797 f9f5:=6dcb f9f6:=81e8 f9f7:=7acb f9f8:=7b20 f9f9:=7c92
   f9fa:=72c0 f9fb:=7099 f9fc:=8b58 f9fd:=4ec0 f9fe:=8336 f9ff:=523a fa00:=5207 fa01:=5ea6
   fa02:=62d3 fa03:=7cd6 fa04:=5b85 fa05:=6d1e fa06:=66b4 fa07:=8f3b fa08:=884c fa09:=964d
   fa0a:=898b fa0b:=5ed3 fa0c:=5140 fa0d:=55c0 fa0e:V fa10:=585a fa11:V fa12:=6674 fa13:V
   fa15:=51de fa16:=732a fa17:=76ca fa18:=793c fa19:=795e fa1a:=7965 fa1b:=798f fa1c:=9756
   fa1d:=7cbe fa1e:=7fbd fa1f:V fa20:=8612 fa21:V fa22:=8af8 fa23:V fa25:=9038 fa26:=90fd
   fa27:V fa2a:=98ef fa2b:=98fc fa2c:=9928 fa2d:=9db4 fa2e:=90de fa2f:=96b7 fa30:=4fae
   fa31:=50e7 fa32:=514d fa33:=52c9 fa34:=52e4 fa35:=5351 fa36:=559d fa37:=5606 fa38:=5668
   fa39:=5840 fa3a:=58a8 fa3b:=5c64 fa3c:=5c6e fa3d:=6094 fa3e:=6168 fa3f:=618e fa40:=61f2
   fa41:=654f fa42:=65e2 fa43:=6691 fa44:=6885 fa45:=6d77 fa46:=6e1a fa47:=6f22 fa48:=716e
   fa49:=722b fa4a:=7422 fa4b:=7891 fa4c:=793e fa4d:=7949 fa4e:=7948 fa4f:=7950 fa50:=7956
   fa51:=795d fa52:~80c5 fa54:=7a40 fa55:=7a81 fa56:=7bc0 fa57:=7df4 fa58:=7e09 fa59:=7e41
   fa5a:=7f72 fa5b:=8005 fa5c:=81ed fa5d:=8279 fa5f:=8457 fa60:=8910 fa61:=8996 fa62:=8b01
   fa63:=8b39 fa64:=8cd3 fa65:=8d08 fa66:=8fb6 fa67:=9038 fa68:=96e3 fa69:=97ff fa6a:=983b
   fa6b:=6075 fa6c:=242ee fa6d:=8218 fa6e:X fa70:=4e26 fa71:=51b5 fa72:=5168 fa73:=4f80
   fa74:=5145 fa75:=5180 fa76:=52c7 fa77:=52fa fa78:=559d fa79:=5555 fa7a:=5599 fa7b:=55e2
   fa7c:=585a fa7d:=58b3 fa7e:=5944 fa7f:=5954 fa80:=5a62 fa81:=5b28 fa82:=5ed2 fa83:=5ed9
   fa84:=5f69 fa85:=5fad fa86:=60d8 fa87:=614e fa88:=6108 fa89:=618e fa8a:=6160 fa8b:=61f2
   fa8c:=6234 fa8d:=63c4 fa8e:=641c fa8f:=6452 fa90:=6556 fa91:=6674 fa92:=6717 fa93:=671b
   fa94:=6756 fa95:=6b79 fa96:=6bba fa97:=6d41 fa98:=6edb fa99:=6ecb fa9a:=6f22 fa9b:=701e
   fa9c:=716e fa9d:=77a7 fa9e:=7235 fa9f:=72af faa0:=732a faa1:=7471 faa2:=7506 faa3:=753b
   faa4:=761d faa5:=761f faa6:=76ca faa7:=76db faa8:=76f4 faa9:=774a faaa:=7740 faab:=78cc
   faac:=7ab1 faad:=7bc0 faae:=7c7b faaf:=7d5b fab0:=7df4 fab1:=7f3e fab2:=8005 fab3:=8352
   fab4:=83ef fab5:=8779 fab6:=8941 fab7:=8986 fab8:=8996 fab9:=8abf faba:=8af8 fabb:=8acb
   fabc:=8b01 fabd:=8afe fabe:=8aed fabf:=8b39 fac0:=8b8a fac1:=8d08 fac2:=8f38 fac3:=9072
   fac4:=9199 fac5:=9276 fac6:=967c fac7:=96e3 fac8:=9756 fac9:=97db faca:=97ff facb:=980b
   facc:=983b facd:=9b12 face:=9f9c facf:=2284a fad0:=22844 fad1:=233d5 fad2:=3b9d fad3:=4018
   fad4:=4039 fad5:=25249 fad6:=25cd0 fad7:=27ed3 fad8:=9f43 fad9:=9f8e fada:X fb00:=66,66
   fb01:=66,69 fb02:=66,6c fb03:=66,66,69 fb04:=66,66,6c fb05:=73,74 fb07:X fb13:=574,576
   fb14:=574,565 fb15:=574,56b fb16:=57e,576 fb17:=574,56d fb18:X fb1d:=5d9,5b4 fb1e:V
   fb1f:=5f2,5b7 fb20:=5e2 fb21:=5d0 fb22:~f54f fb24:~f549 fb27:=5e8 fb28:=5ea fb29:=2b
   fb2a:=5e9,5c1 fb2b:=5e9,5c2 fb2c:=5e9,5bc,5c1 fb2d:=5e9,5bc,5c2 fb2e:=5d0,5b7 fb2f:=5d0,5b8
   fb30:=5d0,5bc fb31:=5d1,5bc fb32:=5d2,5bc fb33:=5d3,5bc fb34:=5d4,5bc fb35:=5d5,5bc
   fb36:=5d6,5bc fb37:X fb38:=5d8,5bc fb39:=5d9,5bc fb3a:=5da,5bc fb3b:=5db,5bc fb3c:=5dc,5bc
   fb3d:X fb3e:=5de,5bc fb3f:X fb40:=5e0,5bc fb41:=5e1,5bc fb42:X fb43:=5e3,5bc fb44:=5e4,5bc
   fb45:X fb46:=5e6,5bc fb47:=5e7,5bc fb48:=5e8,5bc fb49:=5e9,5bc fb4a:=5ea,5bc fb4b:=5d5,5b9
   fb4c:=5d1,5bf fb4d:=5db,5bf fb4e:=5e4,5bf fb4f:=5d0,5dc fb50:=671 fb52:=67b fb56:=67e
   fb5a:=680 fb5e:=67a fb62:=67f fb66:=679 fb6a:=6a4 fb6e:=6a6 fb72:=684 fb76:=683 fb7a:=686
   fb7e:=687 fb82:=68d fb84:=68c fb86:=68e fb88:=688 fb8a:=698 fb8c:=691 fb8e:=6a9 fb92:=6af
   fb96:=6b3 fb9a:=6b1 fb9e:=6ba fba0:=6bb fba4:=6c0 fba6:=6c1 fbaa:=6be fbae:=6d2 fbb0:=6d3
   fbb2:V fbd3:=6ad fbd7:=6c7 fbd9:=6c6 fbdb:=6c8 fbdd:=6c7,674 fbde:=6cb fbe0:=6c5 fbe2:=6c9
   fbe4:=6d0 fbe8:=649 fbea:=626,627 fbec:=626,6d5 fbee:=626,648 fbf0:=626,6c7 fbf2:=626,6c6
   fbf4:=626,6c8 fbf6:=626,6d0 fbf9:=626,649 fbfc:=6cc fc00:=626,62c fc01:=626,62d
   fc02:=626,645 fc03:=626,649 fc04:=626,64a fc05:=628,62c fc06:=628,62d fc07:=628,62e
   fc08:=628,645 fc09:=628,649 fc0a:=628,64a fc0b:=62a,62c fc0c:=62a,62d fc0d:=62a,62e
   fc0e:=62a,645 fc0f:=62a,649 fc10:=62a,64a fc11:=62b,62c fc12:=62b,645 fc13:=62b,649
   fc14:=62b,64a fc15:=62c,62d fc16:=62c,645 fc17:=62d,62c fc18:=62d,645 fc19:=62e,62c
   fc1a:=62e,62d fc1b:=62e,645 fc1c:=633,62c fc1d:=633,62d fc1e:=633,62e fc1f:=633,645
   fc20:=635,62d fc21:=635,645 fc22:=636,62c fc23:=636,62d fc24:=636,62e fc25:=636,645
   fc26:=637,62d fc27:=637,645 fc28:=638,645 fc29:=639,62c fc2a:=639,645 fc2b:=63a,62c
   fc2c:=63a,645 fc2d:=641,62c fc2e:=641,62d fc2f:=641,62e fc30:=641,645 fc31:=641,649
   fc32:=641,64a fc33:=642,62d fc34:=642,645 fc35:=642,649 fc36:=642,64a fc37:=643,627
   fc38:=643,62c fc39:=643,62d fc3a:=643,62e fc3b:=643,644 fc3c:=643,645 fc3d:=643,649
   fc3e:=643,64a fc3f:=644,62c fc40:=644,62d fc41:=644,62e fc42:=644,645 fc43:=644,649
   fc44:=644,64a fc45:=645,62c fc46:=645,62d fc47:=645,62e fc48:=645,645 fc49:=645,649
   fc4a:=645,64a fc4b:=646,62c fc4c:=646,62d fc4d:=646,62e fc4e:=646,645 fc4f:=646,649
   fc50:=646,64a fc51:=647,62c fc52:=647,645 fc53:=647,649 fc54:=647,64a fc55:=64a,62c
   fc56:=64a,62d fc57:=64a,62e fc58:=64a,645 fc59:=64a,649 fc5a:=64a,64a fc5b:=630,670
   fc5c:=631,670 fc5d:=649,670 fc5e:=20,64c,651 fc5f:=20,64d,651 fc60:=20,64e,651
   fc61:=20,64f,651 fc62:=20,650,651 fc63:=20,651,670 fc64:=626,631 fc65:=626,632
   fc66:=626,645 fc67:=626,646 fc68:=626,649 fc69:=626,64a fc6a:=628,631 fc6b:=628,632
   fc6c:=628,645 fc6d:=628,646 fc6e:=628,649 fc6f:=628,64a fc70:=62a,631 fc71:=62a,632
   fc72:=62a,645 fc73:=62a,646 fc74:=62a,649 fc75:=62a,64a fc76:=62b,631 fc77:=62b,632
   fc78:=62b,645 fc79:=62b,646 fc7a:=62b,649 fc7b:=62b,64a fc7c:=641,649 fc7d:=641,64a
   fc7e:=642,649 fc7f:=642,64a fc80:=643,627 fc81:=643,644 fc82:=643,645 fc83:=643,649
   fc84:=643,64a fc85:=644,645 fc86:=644,649 fc87:=644,64a fc88:=645,627 fc89:=645,645
   fc8a:=646,631 fc8b:=646,632 fc8c:=646,645 fc8d:=646,646 fc8e:=646,649 fc8f:=646,64a
   fc90:=649,670 fc91:=64a,631 fc92:=64a,632 fc93:=64a,645 fc94:=64a,646 fc95:=64a,649
   fc96:=64a,64a fc97:=626,62c fc98:=626,62d fc99:=626,62e fc9a:=626,645 fc9b:=626,647
   fc9c:=628,62c fc9d:=628,62d fc9e:=628,62e fc9f:=628,645 fca0:=628,647 fca1:=62a,62c
   fca2:=62a,62d fca3:=62a,62e fca4:=62a,645 fca5:=62a,647 fca6:=62b,645 fca7:=62c,62d
   fca8:=62c,645 fca9:=62d,62c fcaa:=62d,645 fcab:=62e,62c fcac:=62e,645 fcad:=633,62c
   fcae:=633,62d fcaf:=633,62e fcb0:=633,645 fcb1:=635,62d fcb2:=635,62e fcb3:=635,645
   fcb4:=636,62c fcb5:=636,62d fcb6:=636,62e fcb7:=636,645 fcb8:=637,62d fcb9:=638,645
   fcba:=639,62c fcbb:=639,645 fcbc:=63a,62c fcbd:=63a,645 fcbe:=641,62c fcbf:=641,62d
   fcc0:=641,62e fcc1:=641,645 fcc2:=642,62d fcc3:=642,645 fcc4:=643,62c fcc5:=643,62d
   fcc6:=643,62e fcc7:=643,644 fcc8:=643,645 fcc9:=644,62c fcca:=644,62d fccb:=644,62e
   fccc:=644,645 fccd:=644,647 fcce:=645,62c fccf:=645,62d fcd0:=645,62e fcd1:=645,645
   fcd2:=646,62c fcd3:=646,62d fcd4:=646,62e fcd5:=646,645 fcd6:=646,647 fcd7:=647,62c
   fcd8:=647,645 fcd9:=647,670 fcda:=64a,62c fcdb:=64a,62d fcdc:=64a,62e fcdd:=64a,645
   fcde:=64a,647 fcdf:=626,645 fce0:=626,647 fce1:=628,645 fce2:=628,647 fce3:=62a,645
   fce4:=62a,647 fce5:=62b,645 fce6:=62b,647 fce7:=633,645 fce8:=633,647 fce9:=634,645
   fcea:=634,647 fceb:=643,644 fcec:=643,645 fced:=644,645 fcee:=646,645 fcef:=646,647
   fcf0:=64a,645 fcf1:=64a,647 fcf2:=640,64e,651 fcf3:=640,64f,651 fcf4:=640,650,651
   fcf5:=637,649 fcf6:=637,64a fcf7:=639,649 fcf8:=639,64a fcf9:=63a,649 fcfa:=63a,64a
   fcfb:=633,649 fcfc:=633,64a fcfd:=634,649 fcfe:=634,64a fcff:=62d,649 fd00:=62d,64a
   fd01:=62c,649 fd02:=62c,64a fd03:=62e,649 fd04:=62e,64a fd05:=635,649 fd06:=635,64a
   fd07:=636,649 fd08:=636,64a fd09:=634,62c fd0a:=634,62d fd0b:=634,62e fd0c:=634,645
   fd0d:=634,631 fd0e:=633,631 fd0f:=635,631 fd10:=636,631 fd11:=637,649 fd12:=637,64a
   fd13:=639,649 fd14:=639,64a fd15:=63a,649 fd16:=63a,64a fd17:=633,649 fd18:=633,64a
   fd19:=634,649 fd1a:=634,64a fd1b:=62d,649 fd1c:=62d,64a fd1d:=62c,649 fd1e:=62c,64a
   fd1f:=62e,649 fd20:=62e,64a fd21:=635,649 fd22:=635,64a fd23:=636,649 fd24:=636,64a
   fd25:=634,62c fd26:=634,62d fd27:=634,62e fd28:=634,645 fd29:=634,631 fd2a:=633,631
   fd2b:=635,631 fd2c:=636,631 fd2d:=634,62c fd2e:=634,62d fd2f:=634,62e fd30:=634,645
   fd31:=633,647 fd32:=634,647 fd33:=637,645 fd34:=633,62c fd35:=633,62d fd36:=633,62e
   fd37:=634,62c fd38:=634,62d fd39:=634,62e fd3a:=637,645 fd3b:=638,645 fd3c:=627,64b fd3e:V
   fd50:=62a,62c,645 fd51:=62a,62d,62c fd53:=62a,62d,645 fd54:=62a,62e,645 fd55:=62a,645,62c
   fd56:=62a,645,62d fd57:=62a,645,62e fd58:=62c,645,62d fd5a:=62d,645,64a fd5b:=62d,645,649
   fd5c:=633,62d,62c fd5d:=633,62c,62d fd5e:=633,62c,649 fd5f:=633,645,62d fd61:=633,645,62c
   fd62:=633,645,645 fd64:=635,62d,62d fd66:=635,645,645 fd67:=634,62d,645 fd69:=634,62c,64a
   fd6a:=634,645,62e fd6c:=634,645,645 fd6e:=636,62d,649 fd6f:=636,62e,645 fd71:=637,645,62d
   fd73:=637,645,645 fd74:=637,645,64a fd75:=639,62c,645 fd76:=639,645,645 fd78:=639,645,649
   fd79:=63a,645,645 fd7a:=63a,645,64a fd7b:=63a,645,649 fd7c:=641,62e,645 fd7e:=642,645,62d
   fd7f:=642,645,645 fd80:=644,62d,645 fd81:=644,62d,64a fd82:=644,62d,649 fd83:=644,62c,62c
   fd85:=644,62e,645 fd87:=644,645,62d fd89:=645,62d,62c fd8a:=645,62d,645 fd8b:=645,62d,64a
   fd8c:=645,62c,62d fd8d:=645,62c,645 fd8e:=645,62e,62c fd8f:=645,62e,645 fd90:V
   fd92:=645,62c,62e fd93:=647,645,62c fd94:=647,645,645 fd95:=646,62d,645 fd96:=646,62d,649
   fd97:=646,62c,645 fd99:=646,62c,649 fd9a:=646,645,64a fd9b:=646,645,649 fd9c:=64a,645,645
   fd9e:=628,62e,64a fd9f:=62a,62c,64a fda0:=62a,62c,649 fda1:=62a,62e,64a fda2:=62a,62e,649
   fda3:=62a,645,64a fda4:=62a,645,649 fda5:=62c,645,64a fda6:=62c,62d,649 fda7:=62c,645,649
   fda8:=633,62e,649 fda9:=635,62d,64a fdaa:=634,62d,64a fdab:=636,62d,64a fdac:=644,62c,64a
   fdad:=644,645,64a fdae:=64a,62d,64a fdaf:=64a,62c,64a fdb0:=64a,645,64a fdb1:=645,645,64a
   fdb2:=642,645,64a fdb3:=646,62d,64a fdb4:=642,645,62d fdb5:=644,62d,645 fdb6:=639,645,64a
   fdb7:=643,645,64a fdb8:=646,62c,62d fdb9:=645,62e,64a fdba:=644,62c,645 fdbb:=643,645,645
   fdbc:=644,62c,645 fdbd:=646,62c,62d fdbe:=62c,62d,64a fdbf:=62d,62c,64a fdc0:=645,62c,64a
   fdc1:=641,645,64a fdc2:=628,62d,64a fdc3:=643,645,645 fdc4:=639,62c,645 fdc5:=635,645,645
   fdc6:=633,62e,64a fdc7:=646,62c,64a fdc8:V fdd0:X fdf0:=635,644,6d2 fdf1:=642,644,6d2
   fdf2:=627,644,644,647 fdf3:=627,643,628,631 fdf4:=645,62d,645,62f fdf5:=635,644,639,645
   fdf6:=631,633,648,644 fdf7:=639,644,64a,647 fdf8:=648,633,644,645 fdf9:=635,644,649
   fdfa:=635,644,649,20,627,644,644,647,20,639,644,64a,647,20,648,633,644,645
   fdfb:=62c,644,20,62c,644,627,644,647 fdfc:=631,6cc,627,644 fdfd:V fe00:I fe10:=2c
   fe11:=3001 fe12:X fe13:~fdd9 fe15:=21 fe16:=3f fe17:~ce01 fe19:X fe20:V fe30:X fe31:=2014
   fe32:=2013 fe33:=5f fe35:~fe0d fe37:=7b fe38:=7d fe39:~ce25 fe3b:~ce2b fe3d:~ce33
   fe3f:~ce37 fe41:~ce35 fe45:V fe47:=5b fe48:=5d fe49:=20,305 fe4d:=5f fe50:=2c fe51:=3001
   fe52:X fe54:=3b fe55:=3a fe56:=3f fe57:=21 fe58:=2014 fe59:~fe31 fe5b:=7b fe5c:=7d
   fe5d:~ce49 fe5f:=23 fe60:=26 fe61:~fe37 fe63:=2d fe64:=3c fe65:=3e fe66:=3d fe67:X fe68:=5c
   fe69:~fe45 fe6b:=40 fe6c:X fe70:=20,64b fe71:=640,64b fe72:=20,64c fe73:V fe74:=20,64d
   fe75:X fe76:=20,64e fe77:=640,64e fe78:=20,64f fe79:=640,64f fe7a:=20,650 fe7b:=640,650
   fe7c:=20,651 fe7d:=640,651 fe7e:=20,652 fe7f:=640,652 fe80:=621 fe81:=622 fe83:=623
   fe85:=624 fe87:=625 fe89:=626 fe8d:=627 fe8f:=628 fe93:=629 fe95:=62a fe99:=62b fe9d:=62c
   fea1:=62d fea5:=62e fea9:=62f feab:=630 fead:=631 feaf:=632 feb1:=633 feb5:=634 feb9:=635
   febd:=636 fec1:=637 fec5:=638 fec9:=639 fecd:=63a fed1:=641 fed5:=642 fed9:=643 fedd:=644
   fee1:=645 fee5:=646 fee9:=647 feed:=648 feef:=649 fef1:=64a fef5:=644,622 fef7:=644,623
   fef9:=644,625 fefb:=644,627 fefd:X feff:I ff00:X ff01:~fee0 ff21:~fec0 ff3b:~fee0
   ff5f:~d5da ff61:=2e ff62:~cf56 ff64:=3001 ff65:=30fb ff66:=30f2 ff67:=30a1 ff68:=30a3
   ff69:=30a5 ff6a:=30a7 ff6b:=30a9 ff6c:=30e3 ff6d:=30e5 ff6e:=30e7 ff6f:=30c3 ff70:=30fc
   ff71:=30a2 ff72:=30a4 ff73:=30a6 ff74:=30a8 ff75:~cecb ff77:=30ad ff78:=30af ff79:=30b1
   ff7a:=30b3 ff7b:=30b5 ff7c:=30b7 ff7d:=30b9 ff7e:=30bb ff7f:=30bd ff80:=30bf ff81:=30c1
   ff82:=30c4 ff83:=30c6 ff84:=30c8 ff85:~cebb ff8b:=30d2 ff8c:=30d5 ff8d:=30d8 ff8e:=30db
   ff8f:~ceb1 ff94:=30e4 ff95:=30e6 ff96:~ceae ff9c:=30ef ff9d:=30f3 ff9e:~cf05 ffa0:I
   ffa1:~eea1 ffa3:=11aa ffa4:=1102 ffa5:~edf9 ffa7:~eea4 ffaa:~edfa ffb0:=111a ffb1:~eeab
   ffb4:=1121 ffb5:~eeac ffbf:X ffc2:~ee61 ffc8:X ffca:~ee63 ffd0:X ffd2:~ee65 ffd8:X
   ffda:~ee67 ffdd:X ffe0:~ff3e ffe2:=ac ffe3:=20,304 ffe4:=a6 ffe5:=a5 ffe6:=20a9 ffe7:X
   ffe8:=2502 ffe9:~de59 ffed:=25a0 ffee:=25cb ffef:X 10000:V 1000c:X 1000d:V 10027:X 10028:V
   1003b:X 1003c:V 1003e:X 1003f:V 1004e:X 10050:V 1005e:X 10080:V 100fb:X 10100:V 10103:X
   10107:V 10134:X 10137:V 1018f:X 10190:V 1019d:X 101a0:V 101a1:X 101d0:V 101fe:X 10280:V
   1029d:X 102a0:V 102d1:X 102e0:V 102fc:X 10300:V 10324:X 1032d:V 1034b:X 10350:V 1037b:X
   10380:V 1039e:X 1039f:V 103c4:X 103c8:V 103d6:X 10400:+28 10428:V 1049e:X 104a0:V 104aa:X
   104b0:+28 104d4:X 104d8:V 104fc:X 10500:V 10528:X 10530:V 10564:X 1056f:V 10570:+27 1057b:X
   1057c:+27 1058b:X 1058c:+27 10593:X 10594:+27 10596:X 10597:V 105a2:X 105a3:V 105b2:X
   105b3:V 105ba:X 105bb:V 105bd:X 105c0:V 105f4:X 10600:V 10737:X 10740:V 10756:X 10760:V
   10768:X 10780:V 10781:~104b1 10783:=e6 10784:=299 10785:=253 10786:X 10787:=2a3 10788:=ab66
   10789:=2a5 1078a:=2a4 1078b:~10535 1078d:=1d91 1078e:=258 1078f:=25e 10790:=2a9 10791:=264
   10792:=262 10793:=260 10794:=29b 10795:=127 10796:=29c 10797:=267 10798:=284 10799:~104ef
   1079b:=26c 1079c:=1df04 1079d:=a78e 1079e:=26e 1079f:=1df05 107a0:=28e 107a1:=1df06
   107a2:=f8 107a3:~1052d 107a5:=71 107a6:=27a 107a7:=1df08 107a8:~1052b 107aa:=280 107ab:=2a8
   107ac:=2a6 107ad:=ab67 107ae:=2a7 107af:=288 107b0:=2c71 107b1:X 107b2:=28f 107b3:~10512
   107b5:=298 107b6:~105f6 107b9:=1df0a 107ba:=1df1e 107bb:X 10800:V 10806:X 10808:V 10809:X
   1080a:V 10836:X 10837:V 10839:X 1083c:V 1083d:X 1083f:V 10856:X 10857:V 1089f:X 108a7:V
   108b0:X 108e0:V 108f3:X 108f4:V 108f6:X 108fb:V 1091c:X 1091f:V 1093a:X 1093f:V 1095a:X
   10980:V 109b8:X 109bc:V 109d0:X 109d2:V 10a04:X 10a05:V 10a07:X 10a0c:V 10a14:X 10a15:V
   10a18:X 10a19:V 10a36:X 10a38:V 10a3b:X 10a3f:V 10a49:X 10a50:V 10a59:X 10a60:V 10aa0:X
   10ac0:V 10ae7:X 10aeb:V 10af7:X 10b00:V 10b36:X 10b39:V 10b56:X 10b58:V 10b73:X 10b78:V
   10b92:X 10b99:V 10b9d:X 10ba9:V 10bb0:X 10c00:V 10c49:X 10c80:+40 10cb3:X 10cc0:V 10cf3:X
   10cfa:V 10d28:X 10d30:V 10d3a:X 10d40:V 10d50:+20 10d66:X 10d69:V 10d86:X 10d8e:V 10d90:X
   10e60:V 10e7f:X 10e80:V 10eaa:X 10eab:V 10eae:X 10eb0:V 10eb2:X 10ec2:V 10ec8:X 10ed0:V
   10ed9:X 10efa:V 10f28:X 10f30:V 10f5a:X 10f70:V 10f8a:X 10fb0:V 10fcc:X 10fe0:V 10ff7:X
   11000:V 1104e:X 11052:V 11076:X 1107f:V 110bd:X 110be:V 110c3:X 110d0:V 110e9:X 110f0:V
   110fa:X 11100:V 11135:X 11136:V 11148:X 11150:V 11177:X 11180:V 111e0:X 111e1:V 111f5:X
   11200:V 11212:X 11213:V 11242:X 11280:V 11287:X 11288:V 11289:X 1128a:V 1128e:X 1128f:V
   1129e:X 1129f:V 112aa:X 112b0:V 112eb:X 112f0:V 112fa:X 11300:V 11304:X 11305:V 1130d:X
   1130f:V 11311:X 11313:V 11329:X 1132a:V 11331:X 11332:V 11334:X 11335:V 1133a:X 1133b:V
   11345:X 11347:V 11349:X 1134b:V 1134e:X 11350:V 11351:X 11357:V 11358:X 1135d:V 11364:X
   11366:V 1136d:X 11370:V 11375:X 11380:V 1138a:X 1138b:V 1138c:X 1138e:V 1138f:X 11390:V
   113b6:X 113b7:V 113c1:X 113c2:V 113c3:X 113c5:V 113c6:X 113c7:V 113cb:X 113cc:V 113d6:X
   113d7:V 113d9:X 113e1:V 113e3:X 11400:V 1145c:X 1145d:V 11462:X 11480:V 114c8:X 114d0:V
   114da:X 11580:V 115b6:X 115b8:V 115de:X 11600:V 11645:X 11650:V 1165a:X 11660:V 1166d:X
   11680:V 116ba:X 116c0:V 116ca:X 116d0:V 116e4:X 11700:V 1171b:X 1171d:V 1172c:X 11730:V
   11747:X 11800:V 1183c:X 118a0:+20 118c0:V 118f3:X 118ff:V 11907:X 11909:V 1190a:X 1190c:V
   11914:X 11915:V 11917:X 11918:V 11936:X 11937:V 11939:X 1193b:V 11947:X 11950:V 1195a:X
   119a0:V 119a8:X 119aa:V 119d8:X 119da:V 119e5:X 11a00:V 11a48:X 11a50:V 11aa3:X 11ab0:V
   11af9:X 11b00:V 11b0a:X 11b60:V 11b68:X 11bc0:V 11be2:X 11bf0:V 11bfa:X 11c00:V 11c09:X
   11c0a:V 11c37:X 11c38:V 11c46:X 11c50:V 11c6d:X 11c70:V 11c90:X 11c92:V 11ca8:X 11ca9:V
   11cb7:X 11d00:V 11d07:X 11d08:V 11d0a:X 11d0b:V 11d37:X 11d3a:V 11d3b:X 11d3c:V 11d3e:X
   11d3f:V 11d48:X 11d50:V 11d5a:X 11d60:V 11d66:X 11d67:V 11d69:X 11d6a:V 11d8f:X 11d90:V
   11d92:X 11d93:V 11d99:X 11da0:V 11daa:X 11db0:V 11ddc:X 11de0:V 11dea:X 11ee0:V 11ef9:X
   11f00:V 11f11:X 11f12:V 11f3b:X 11f3e:V 11f5b:X 11fb0:V 11fb1:X 11fc0:V 11ff2:X 11fff:V
   1239a:X 12400:V 1246f:X 12470:V 12475:X 12480:V 12544:X 12f90:V 12ff3:X 13000:V 13430:X
   13440:V 13456:X 13460:V 143fb:X 14400:V 14647:X 16100:V 1613a:X 16800:V 16a39:X 16a40:V
   16a5f:X 16a60:V 16a6a:X 16a6e:V 16abf:X 16ac0:V 16aca:X 16ad0:V 16aee:X 16af0:V 16af6:X
   16b00:V 16b46:X 16b50:V 16b5a:X 16b5b:V 16b62:X 16b63:V 16b78:X 16b7d:V 16b90:X 16d40:V
   16d7a:X 16e40:+20 16e60:V 16e9b:X 16ea0:+1b 16eb9:X 16ebb:V 16ed4:X 16f00:V 16f4b:X 16f4f:V
   16f88:X 16f8f:V 16fa0:X 16fe0:V 16fe5:X 16ff0:V 16ff7:X 17000:V 18cd6:X 18cff:V 18d1f:X
   18d80:V 18df3:X 1aff0:V 1aff4:X 1aff5:V 1affc:X 1affd:V 1afff:X 1b000:V 1b123:X 1b132:V
   1b133:X 1b150:V 1b153:X 1b155:V 1b156:X 1b164:V 1b168:X 1b170:V 1b2fc:X 1bc00:V 1bc6b:X
   1bc70:V 1bc7d:X 1bc80:V 1bc89:X 1bc90:V 1bc9a:X 1bc9c:V 1bca0:I 1bca4:X 1cc00:V
   1ccd6:~1cc75 1ccf0:~1ccc0 1ccfa:V 1ccfd:X 1cd00:V 1ceb4:X 1ceba:V 1ced1:X 1cee0:V 1cef1:X
   1cf00:V 1cf2e:X 1cf30:V 1cf47:X 1cf50:V 1cfc4:X 1d000:V 1d0f6:X 1d100:V 1d127:X 1d129:V
   1d15e:=1d157,1d165 1d15f:=1d158,1d165 1d160:=1d158,1d165,1d16e 1d161:=1d158,1d165,1d16f
   1d162:=1d158,1d165,1d170 1d163:=1d158,1d165,1d171 1d164:=1d158,1d165,1d172 1d165:V 1d173:I
   1d17b:V 1d1bb:=1d1b9,1d165 1d1bc:=1d1ba,1d165 1d1bd:=1d1b9,1d165,1d16e
   1d1be:=1d1ba,1d165,1d16e 1d1bf:=1d1b9,1d165,1d16f 1d1c0:=1d1ba,1d165,1d16f 1d1c1:V 1d1eb:X
   1d200:V 1d246:X 1d2c0:V 1d2d4:X 1d2e0:V 1d2f4:X 1d300:V 1d357:X 1d360:V 1d379:X
   1d400:~1d39f 1d41a:~1d3b9 1d434:~1d3d3 1d44e:~1d3ed 1d455:X 1d456:~1d3ed 1d468:~1d407
   1d482:~1d421 1d49c:=61 1d49d:X 1d49e:~1d43b 1d4a0:X 1d4a2:=67 1d4a3:X 1d4a5:~1d43b 1d4a7:X
   1d4a9:~1d43b 1d4ad:X 1d4ae:~1d43b 1d4b6:~1d455 1d4ba:X 1d4bb:=66 1d4bc:X 1d4bd:~1d455
   1d4c4:X 1d4c5:~1d455 1d4d0:~1d46f 1d4ea:~1d489 1d504:~1d4a3 1d506:X 1d507:~1d4a3 1d50b:X
   1d50d:~1d4a3 1d515:X 1d516:~1d4a3 1d51d:X 1d51e:~1d4bd 1d538:~1d4d7 1d53a:X 1d53b:~1d4d7
   1d53f:X 1d540:~1d4d7 1d545:X 1d546:=6f 1d547:X 1d54a:~1d4d7 1d551:X 1d552:~1d4f1
   1d56c:~1d50b 1d586:~1d525 1d5a0:~1d53f 1d5ba:~1d559 1d5d4:~1d573 1d5ee:~1d58d 1d608:~1d5a7
   1d622:~1d5c1 1d63c:~1d5db 1d656:~1d5f5 1d670:~1d60f 1d68a:~1d629 1d6a4:=131 1d6a5:=237
   1d6a6:X 1d6a8:~1d2f7 1d6b9:=3b8 1d6ba:~1d2f7 1d6c1:=2207 1d6c2:~1d311 1d6d3:=3c3
   1d6d5:~1d311 1d6db:=2202 1d6dc:=3b5 1d6dd:=3b8 1d6de:=3ba 1d6df:=3c6 1d6e0:=3c1 1d6e1:=3c0
   1d6e2:~1d331 1d6f3:=3b8 1d6f4:~1d331 1d6fb:=2207 1d6fc:~1d34b 1d70d:=3c3 1d70f:~1d34b
   1d715:=2202 1d716:=3b5 1d717:=3b8 1d718:=3ba 1d719:=3c6 1d71a:=3c1 1d71b:=3c0 1d71c:~1d36b
   1d72d:=3b8 1d72e:~1d36b 1d735:=2207 1d736:~1d385 1d747:=3c3 1d749:~1d385 1d74f:=2202
   1d750:=3b5 1d751:=3b8 1d752:=3ba 1d753:=3c6 1d754:=3c1 1d755:=3c0 1d756:~1d3a5 1d767:=3b8
   1d768:~1d3a5 1d76f:=2207 1d770:~1d3bf 1d781:=3c3 1d783:~1d3bf 1d789:=2202 1d78a:=3b5
   1d78b:=3b8 1d78c:=3ba 1d78d:=3c6 1d78e:=3c1 1d78f:=3c0 1d790:~1d3df 1d7a1:=3b8 1d7a2:~1d3df
   1d7a9:=2207 1d7aa:~1d3f9 1d7bb:=3c3 1d7bd:~1d3f9 1d7c3:=2202 1d7c4:=3b5 1d7c5:=3b8
   1d7c6:=3ba 1d7c7:=3c6 1d7c8:=3c1 1d7c9:=3c0 1d7ca:=3dd 1d7cc:X 1d7ce:~1d79e 1d7d8:~1d7a8
   1d7e2:~1d7b2 1d7ec:~1d7bc 1d7f6:~1d7c6 1d800:V 1da8c:X 1da9b:V 1daa0:X 1daa1:V 1dab0:X
   1df00:V 1df1f:X 1df25:V 1df2b:X 1e000:V 1e007:X 1e008:V 1e019:X 1e01b:V 1e022:X 1e023:V
   1e025:X 1e026:V 1e02b:X 1e030:~1dc00 1e039:~1dbff 1e03c:~1dbfe 1e047:=44b 1e048:~1dbfb
   1e04a:=a689 1e04b:=4d9 1e04c:=456 1e04d:=458 1e04e:=4e9 1e04f:=4af 1e050:=4cf 1e051:~1dc21
   1e05a:~1dc20 1e05c:~1dc1e 1e05e:=441 1e05f:~1dc1c 1e065:~1dc1b 1e067:=491 1e068:=456
   1e069:=455 1e06a:=45f 1e06b:=4ab 1e06c:=a651 1e06d:=4b1 1e06e:X 1e08f:V 1e090:X 1e100:V
   1e12d:X 1e130:V 1e13e:X 1e140:V 1e14a:X 1e14e:V 1e150:X 1e290:V 1e2af:X 1e2c0:V 1e2fa:X
   1e2ff:V 1e300:X 1e4d0:V 1e4fa:X 1e5d0:V 1e5fb:X 1e5ff:V 1e600:X 1e6c0:V 1e6df:X 1e6e0:V
   1e6f6:X 1e6fe:V 1e700:X 1e7e0:V 1e7e7:X 1e7e8:V 1e7ec:X 1e7ed:V 1e7ef:X 1e7f0:V 1e7ff:X
   1e800:V 1e8c5:X 1e8c7:V 1e8d7:X 1e900:+22 1e922:V 1e94c:X 1e950:V 1e95a:X 1e95e:V 1e960:X
   1ec71:V 1ecb5:X 1ed01:V 1ed3e:X 1ee00:~1e7d9 1ee02:=62c 1ee03:=62f 1ee04:X 1ee05:=648
   1ee06:=632 1ee07:=62d 1ee08:=637 1ee09:=64a 1ee0a:~1e7c7 1ee0e:=633 1ee0f:=639 1ee10:=641
   1ee11:=635 1ee12:=642 1ee13:=631 1ee14:=634 1ee15:~1e7eb 1ee17:=62e 1ee18:=630 1ee19:=636
   1ee1a:=638 1ee1b:=63a 1ee1c:=66e 1ee1d:=6ba 1ee1e:=6a1 1ee1f:=66f 1ee20:X 1ee21:=628
   1ee22:=62c 1ee23:X 1ee24:=647 1ee25:X 1ee27:=62d 1ee28:X 1ee29:=64a 1ee2a:~1e7e7 1ee2e:=633
   1ee2f:=639 1ee30:=641 1ee31:=635 1ee32:=642 1ee33:X 1ee34:=634 1ee35:~1e80b 1ee37:=62e
   1ee38:X 1ee39:=636 1ee3a:X 1ee3b:=63a 1ee3c:X 1ee42:=62c 1ee43:X 1ee47:=62d 1ee48:X
   1ee49:=64a 1ee4a:X 1ee4b:=644 1ee4c:X 1ee4d:=646 1ee4e:=633 1ee4f:=639 1ee50:X 1ee51:=635
   1ee52:=642 1ee53:X 1ee54:=634 1ee55:X 1ee57:=62e 1ee58:X 1ee59:=636 1ee5a:X 1ee5b:=63a
   1ee5c:X 1ee5d:=6ba 1ee5e:X 1ee5f:=66f 1ee60:X 1ee61:=628 1ee62:=62c 1ee63:X 1ee64:=647
   1ee65:X 1ee67:=62d 1ee68:=637 1ee69:=64a 1ee6a:=643 1ee6b:X 1ee6c:~1e827 1ee6e:=633
   1ee6f:=639 1ee70:=641 1ee71:=635 1ee72:=642 1ee73:X 1ee74:=634 1ee75:~1e84b 1ee77:=62e
   1ee78:X 1ee79:=636 1ee7a:=638 1ee7b:=63a 1ee7c:=66e 1ee7d:X 1ee7e:=6a1 1ee7f:X 1ee80:~1e859
   1ee82:=62c 1ee83:=62f 1ee84:~1e83d 1ee86:=632 1ee87:=62d 1ee88:=637 1ee89:=64a 1ee8a:X
   1ee8b:~1e847 1ee8e:=633 1ee8f:=639 1ee90:=641 1ee91:=635 1ee92:=642 1ee93:=631 1ee94:=634
   1ee95:~1e86b 1ee97:=62e 1ee98:=630 1ee99:=636 1ee9a:=638 1ee9b:=63a 1ee9c:X 1eea1:=628
   1eea2:=62c 1eea3:=62f 1eea4:X 1eea5:=648 1eea6:=632 1eea7:=62d 1eea8:=637 1eea9:=64a
   1eeaa:X 1eeab:~1e867 1eeae:=633 1eeaf:=639 1eeb0:=641 1eeb1:=635 1eeb2:=642 1eeb3:=631
   1eeb4:=634 1eeb5:~1e88b 1eeb7:=62e 1eeb8:=630 1eeb9:=636 1eeba:=638 1eebb:=63a 1eebc:X
   1eef0:V 1eef2:X 1f000:V 1f02c:X 1f030:V 1f094:X 1f0a0:V 1f0af:X 1f0b1:V 1f0c0:X 1f0c1:V
   1f0d0:X 1f0d1:V 1f0f6:X 1f101:=30,2c 1f102:=31,2c 1f103:=32,2c 1f104:=33,2c 1f105:=34,2c
   1f106:=35,2c 1f107:=36,2c 1f108:=37,2c 1f109:=38,2c 1f10a:=39,2c 1f10b:V 1f110:=28,61,29
   1f111:=28,62,29 1f112:=28,63,29 1f113:=28,64,29 1f114:=28,65,29 1f115:=28,66,29
   1f116:=28,67,29 1f117:=28,68,29 1f118:=28,69,29 1f119:=28,6a,29 1f11a:=28,6b,29
   1f11b:=28,6c,29 1f11c:=28,6d,29 1f11d:=28,6e,29 1f11e:=28,6f,29 1f11f:=28,70,29
   1f120:=28,71,29 1f121:=28,72,29 1f122:=28,73,29 1f123:=28,74,29 1f124:=28,75,29
   1f125:=28,76,29 1f126:=28,77,29 1f127:=28,78,29 1f128:=28,79,29 1f129:=28,7a,29
   1f12a:=3014,73,3015 1f12b:=63 1f12c:=72 1f12d:=63,64 1f12e:=77,7a 1f12f:V 1f130:~1f0cf
   1f14a:=68,76 1f14b:=6d,76 1f14c:=73,64 1f14d:=73,73 1f14e:=70,70,76 1f14f:=77,63 1f150:V
   1f16a:=6d,63 1f16b:=6d,64 1f16c:=6d,72 1f16d:V 1f190:=64,6a 1f191:V 1f1ae:X 1f1e6:V
   1f200:=307b,304b 1f201:=30b3,30b3 1f202:=30b5 1f203:X 1f210:=624b 1f211:=5b57 1f212:=53cc
   1f213:=30c7 1f214:=4e8c 1f215:=591a 1f216:=89e3 1f217:=5929 1f218:=4ea4 1f219:=6620
   1f21a:=7121 1f21b:=6599 1f21c:=524d 1f21d:=5f8c 1f21e:=518d 1f21f:=65b0 1f220:=521d
   1f221:=7d42 1f222:=751f 1f223:=8ca9 1f224:=58f0 1f225:=5439 1f226:=6f14 1f227:=6295
   1f228:=6355 1f229:=4e00 1f22a:=4e09 1f22b:=904a 1f22c:=5de6 1f22d:=4e2d 1f22e:=53f3
   1f22f:=6307 1f230:=8d70 1f231:=6253 1f232:=7981 1f233:=7a7a 1f234:=5408 1f235:=6e80
   1f236:=6709 1f237:=6708 1f238:=7533 1f239:=5272 1f23a:=55b6 1f23b:=914d 1f23c:X
   1f240:=3014,672c,3015 1f241:=3014,4e09,3015 1f242:=3014,4e8c,3015 1f243:=3014,5b89,3015
   1f244:=3014,70b9,3015 1f245:=3014,6253,3015 1f246:=3014,76d7,3015 1f247:=3014,52dd,3015
   1f248:=3014,6557,3015 1f249:X 1f250:=5f97 1f251:=53ef 1f252:X 1f260:V 1f266:X 1f300:V
   1f6d9:X 1f6dc:V 1f6ed:X 1f6f0:V 1f6fd:X 1f700:V 1f7da:X 1f7e0:V 1f7ec:X 1f7f0:V 1f7f1:X
   1f800:V 1f80c:X 1f810:V 1f848:X 1f850:V 1f85a:X 1f860:V 1f888:X 1f890:V 1f8ae:X 1f8b0:V
   1f8bc:X 1f8c0:V 1f8c2:X 1f8d0:V 1f8d9:X 1f900:V 1fa58:X 1fa60:V 1fa6e:X 1fa70:V 1fa7d:X
   1fa80:V 1fa8b:X 1fa8e:V 1fac7:X 1fac8:V 1fac9:X 1facd:V 1fadd:X 1fadf:V 1faeb:X 1faef:V
   1faf9:X 1fb00:V 1fb93:X 1fb94:V 1fbf0:~1fbc0 1fbfa:V 1fbfb:X 20000:V 2a6e0:X 2a700:V
   2b81e:X 2b820:V 2ceae:X 2ceb0:V 2ebe1:X 2ebf0:V 2ee5e:X 2f800:=4e3d 2f801:=4e38 2f802:=4e41
   2f803:=20122 2f804:=4f60 2f805:=4fae 2f806:=4fbb 2f807:=5002 2f808:=507a 2f809:=5099
   2f80a:=50e7 2f80b:=50cf 2f80c:=349e 2f80d:=2063a 2f80e:=514d 2f80f:=5154 2f810:=5164
   2f811:=5177 2f812:=2051c 2f813:=34b9 2f814:=5167 2f815:=518d 2f816:=2054b 2f817:=5197
   2f818:=51a4 2f819:=4ecc 2f81a:=51ac 2f81b:=51b5 2f81c:=291df 2f81d:=51f5 2f81e:=5203
   2f81f:=34df 2f820:=523b 2f821:=5246 2f822:=5272 2f823:=5277 2f824:=3515 2f825:=52c7
   2f826:=52c9 2f827:=52e4 2f828:=52fa 2f829:~2a524 2f82b:=5317 2f82c:=5349 2f82d:=5351
   2f82e:=535a 2f82f:=5373 2f830:=537d 2f831:=537f 2f834:=20a2c 2f835:=7070 2f836:=53ca
   2f837:=53df 2f838:=20b63 2f839:=53eb 2f83a:=53f1 2f83b:=5406 2f83c:=549e 2f83d:=5438
   2f83e:=5448 2f83f:=5468 2f840:=54a2 2f841:=54f6 2f842:=5510 2f843:=5553 2f844:=5563
   2f845:=5584 2f847:=5599 2f848:=55ab 2f849:=55b3 2f84a:=55c2 2f84b:=5716 2f84c:=5606
   2f84d:=5717 2f84e:=5651 2f84f:=5674 2f850:=5207 2f851:=58ee 2f852:=57ce 2f853:=57f4
   2f854:=580d 2f855:=578b 2f856:=5832 2f857:=5831 2f858:=58ac 2f859:=214e4 2f85a:=58f2
   2f85b:=58f7 2f85c:=5906 2f85d:=591a 2f85e:=5922 2f85f:=5962 2f860:=216a8 2f861:=216ea
   2f862:=59ec 2f863:=5a1b 2f864:=5a27 2f865:=59d8 2f866:=5a66 2f867:=36ee 2f868:=36fc
   2f869:=5b08 2f86a:=5b3e 2f86c:=219c8 2f86d:=5bc3 2f86e:=5bd8 2f86f:=5be7 2f870:=5bf3
   2f871:=21b18 2f872:=5bff 2f873:=5c06 2f874:=5f53 2f875:=5c22 2f876:=3781 2f877:=5c60
   2f878:=5c6e 2f879:=5cc0 2f87a:=5c8d 2f87b:=21de4 2f87c:=5d43 2f87d:=21de6 2f87e:=5d6e
   2f87f:=5d6b 2f880:=5d7c 2f881:~29aa0 2f883:=382f 2f884:=5dfd 2f885:=5e28 2f886:=5e3d
   2f887:=5e69 2f888:=3862 2f889:=22183 2f88a:=387c 2f88b:=5eb0 2f88c:=5eb3 2f88d:=5eb6
   2f88e:=5eca 2f88f:=2a392 2f890:=5efe 2f891:=22331 2f893:=8201 2f894:=5f22 2f896:=38c7
   2f897:=232b8 2f898:=261da 2f899:=5f62 2f89a:=5f6b 2f89b:=38e3 2f89c:=5f9a 2f89d:=5fcd
   2f89e:=5fd7 2f89f:=5ff9 2f8a0:=6081 2f8a1:=393a 2f8a2:=391c 2f8a3:=6094 2f8a4:=226d4
   2f8a5:=60c7 2f8a6:=6148 2f8a7:=614c 2f8a8:=614e 2f8a9:=614c 2f8aa:=617a 2f8ab:=618e
   2f8ac:=61b2 2f8ad:=61a4 2f8ae:=61af 2f8af:=61de 2f8b0:=61f2 2f8b1:=61f6 2f8b2:=6210
   2f8b3:=621b 2f8b4:=625d 2f8b5:=62b1 2f8b6:=62d4 2f8b7:=6350 2f8b8:=22b0c 2f8b9:=633d
   2f8ba:=62fc 2f8bb:=6368 2f8bc:=6383 2f8bd:=63e4 2f8be:=22bf1 2f8bf:=6422 2f8c0:=63c5
   2f8c1:=63a9 2f8c2:=3a2e 2f8c3:=6469 2f8c4:=647e 2f8c5:=649d 2f8c6:=6477 2f8c7:=3a6c
   2f8c8:=654f 2f8c9:=656c 2f8ca:=2300a 2f8cb:=65e3 2f8cc:=66f8 2f8cd:=6649 2f8ce:=3b19
   2f8cf:=6691 2f8d0:=3b08 2f8d1:=3ae4 2f8d2:=5192 2f8d3:=5195 2f8d4:=6700 2f8d5:=669c
   2f8d6:=80ad 2f8d7:=43d9 2f8d8:=6717 2f8d9:=671b 2f8da:=6721 2f8db:=675e 2f8dc:=6753
   2f8dd:=233c3 2f8de:=3b49 2f8df:=67fa 2f8e0:=6785 2f8e1:=6852 2f8e2:=6885 2f8e3:=2346d
   2f8e4:=688e 2f8e5:=681f 2f8e6:=6914 2f8e7:=3b9d 2f8e8:=6942 2f8e9:=69a3 2f8ea:=69ea
   2f8eb:=6aa8 2f8ec:=236a3 2f8ed:=6adb 2f8ee:=3c18 2f8ef:=6b21 2f8f0:=238a7 2f8f1:=6b54
   2f8f2:=3c4e 2f8f3:=6b72 2f8f4:=6b9f 2f8f5:~28d3b 2f8f7:=23a8d 2f8f8:=21d0b 2f8f9:=23afa
   2f8fa:=6c4e 2f8fb:=23cbc 2f8fc:=6cbf 2f8fd:=6ccd 2f8fe:=6c67 2f8ff:=6d16 2f900:=6d3e
   2f901:=6d77 2f902:=6d41 2f903:=6d69 2f904:=6d78 2f905:=6d85 2f906:=23d1e 2f907:=6d34
   2f908:=6e2f 2f909:=6e6e 2f90a:=3d33 2f90b:=6ecb 2f90c:=6ec7 2f90d:=23ed1 2f90e:=6df9
   2f90f:=6f6e 2f910:=23f5e 2f911:=23f8e 2f912:=6fc6 2f913:=7039 2f914:=701e 2f915:=701b
   2f916:=3d96 2f917:=704a 2f918:=707d 2f919:=7077 2f91a:=70ad 2f91b:=20525 2f91c:=7145
   2f91d:=24263 2f91e:=719c 2f91f:=243ab 2f920:=7228 2f921:=7235 2f922:=7250 2f923:=24608
   2f924:=7280 2f925:=7295 2f926:=24735 2f927:=24814 2f928:=737a 2f929:=738b 2f92a:=3eac
   2f92b:=73a5 2f92c:=3eb8 2f92e:=7447 2f92f:=745c 2f930:=7471 2f931:=7485 2f932:=74ca
   2f933:=3f1b 2f934:=7524 2f935:=24c36 2f936:=753e 2f937:=24c92 2f938:=7570 2f939:=2219f
   2f93a:=7610 2f93b:=24fa1 2f93c:=24fb8 2f93d:=25044 2f93e:=3ffc 2f93f:=4008 2f940:=76f4
   2f941:=250f3 2f942:=250f2 2f943:=25119 2f944:=25133 2f945:=771e 2f946:=771f 2f948:=774a
   2f949:=4039 2f94a:=778b 2f94b:=4046 2f94c:=4096 2f94d:=2541d 2f94e:=784e 2f94f:=788c
   2f950:=78cc 2f951:=40e3 2f952:=25626 2f953:=7956 2f954:=2569a 2f955:=256c5 2f956:=798f
   2f957:=79eb 2f958:=412f 2f959:=7a40 2f95a:=7a4a 2f95b:=7a4f 2f95c:=2597c 2f95d:=25aa7
   2f95f:=7aee 2f960:=4202 2f961:=25bab 2f962:=7bc6 2f963:=7bc9 2f964:=4227 2f965:=25c80
   2f966:=7cd2 2f967:=42a0 2f968:=7ce8 2f969:=7ce3 2f96a:=7d00 2f96b:=25f86 2f96c:=7d63
   2f96d:=4301 2f96e:=7dc7 2f96f:=7e02 2f970:=7e45 2f971:=4334 2f972:=26228 2f973:=26247
   2f974:=4359 2f975:=262d9 2f976:=7f7a 2f977:=2633e 2f978:=7f95 2f979:=7ffa 2f97a:=8005
   2f97b:=264da 2f97c:=26523 2f97d:=8060 2f97e:=265a8 2f97f:=8070 2f980:=2335f 2f981:=43d5
   2f982:=80b2 2f983:=8103 2f984:=440b 2f985:=813e 2f986:=5ab5 2f987:=267a7 2f988:=267b5
   2f989:=23393 2f98a:=2339c 2f98b:=8201 2f98c:=8204 2f98d:=8f9e 2f98e:=446b 2f98f:=8291
   2f990:=828b 2f991:=829d 2f992:=52b3 2f993:=82b1 2f994:=82b3 2f995:=82bd 2f996:=82e6
   2f997:=26b3c 2f998:=82e5 2f999:=831d 2f99a:=8363 2f99b:=83ad 2f99c:=8323 2f99d:=83bd
   2f99e:=83e7 2f99f:=8457 2f9a0:=8353 2f9a1:=83ca 2f9a2:=83cc 2f9a3:=83dc 2f9a4:=26c36
   2f9a5:=26d6b 2f9a6:=26cd5 2f9a7:=452b 2f9a8:=84f1 2f9a9:=84f3 2f9aa:=8516 2f9ab:=273ca
   2f9ac:=8564 2f9ad:=26f2c 2f9ae:=455d 2f9af:=4561 2f9b0:=26fb1 2f9b1:=270d2 2f9b2:=456b
   2f9b3:=8650 2f9b4:=865c 2f9b5:=8667 2f9b6:=8669 2f9b7:=86a9 2f9b8:=8688 2f9b9:=870e
   2f9ba:=86e2 2f9bb:=8779 2f9bc:=8728 2f9bd:=876b 2f9be:=8786 2f9bf:=45d7 2f9c0:=87e1
   2f9c1:=8801 2f9c2:=45f9 2f9c3:=8860 2f9c4:=8863 2f9c5:=27667 2f9c6:=88d7 2f9c7:=88de
   2f9c8:=4635 2f9c9:=88fa 2f9ca:=34bb 2f9cb:=278ae 2f9cc:=27966 2f9cd:=46be 2f9ce:=46c7
   2f9cf:=8aa0 2f9d0:=8aed 2f9d1:=8b8a 2f9d2:=8c55 2f9d3:=27ca8 2f9d4:=8cab 2f9d5:=8cc1
   2f9d6:=8d1b 2f9d7:=8d77 2f9d8:=27f2f 2f9d9:=20804 2f9da:=8dcb 2f9db:=8dbc 2f9dc:=8df0
   2f9dd:=208de 2f9de:=8ed4 2f9df:=8f38 2f9e0:=285d2 2f9e1:=285ed 2f9e2:=9094 2f9e3:=90f1
   2f9e4:=9111 2f9e5:=2872e 2f9e6:=911b 2f9e7:=9238 2f9e8:~26711 2f9ea:=927c 2f9eb:=93f9
   2f9ec:=9415 2f9ed:=28bfa 2f9ee:=958b 2f9ef:=4995 2f9f0:=95b7 2f9f1:=28d77 2f9f2:=49e6
   2f9f3:=96c3 2f9f4:=5db2 2f9f5:=9723 2f9f6:=29145 2f9f7:=2921a 2f9f8:=4a6e 2f9f9:=4a76
   2f9fa:=97e0 2f9fb:=2940a 2f9fc:=4ab2 2f9fd:=29496 2f9fe:=980b 2fa00:=9829 2fa01:=295b6
   2fa02:=98e2 2fa03:=4b33 2fa04:=9929 2fa05:=99a7 2fa06:=99c2 2fa07:=99fe 2fa08:=4bce
   2fa09:=29b30 2fa0a:=9b12 2fa0b:=9c40 2fa0c:=9cfd 2fa0d:=4cce 2fa0e:=4ced 2fa0f:=9d67
   2fa10:=2a0ce 2fa11:=4cf8 2fa12:=2a105 2fa13:=2a20e 2fa14:=2a291 2fa15:=9ebb 2fa16:=4d56
   2fa17:=9ef9 2fa18:=9efe 2fa19:=9f05 2fa1a:=9f0f 2fa1b:=9f16 2fa1c:=9f3b 2fa1d:=2a600
   2fa1e:X 30000:V 3134b:X 31350:V 3347a:X e0100:I e01f0:X"

end SiteSpiders.Url
